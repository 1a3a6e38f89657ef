/-!
# Fresh names

The first of a sequence of names that is not taken. As many names as are taken and one more are
always enough to look at, if they are all different.

Main statements:

- `exists_fresh_eq`: the name is the first that is not taken;
- `eq_of_toString_eq`: names that end with a number are different for different numbers;
- `eq_of_toString_append_eq`: and so are names in which something else follows the number.
-/

namespace CiWorkflow

/-- The number of the first of the names `candidate 0`, `candidate 1`, … that is not taken. -/
def freshIndex? (taken : List String) (candidate : Nat → String) : Option Nat :=
  (List.range (taken.length + 1)).find? fun n => !taken.contains (candidate n)

/-- The first of the names `candidate 0`, `candidate 1`, … that is not taken. -/
def fresh (taken : List String) (candidate : Nat → String) : String :=
  ((freshIndex? taken candidate).map candidate).getD ""

/-- Of more different names than are taken one is free. -/
theorem exists_not_mem (taken : List String) (candidate : Nat → String)
    (inj : ∀ m n, candidate m = candidate n → m = n) :
    ∃ n, n < taken.length + 1 ∧ candidate n ∉ taken := by
  apply Classical.byContradiction
  intro h
  -- otherwise there would be more taken names than the list has
  have all : (List.range (taken.length + 1)).map candidate ⊆ taken := by
    intro name hname
    obtain ⟨n, hn, rfl⟩ := List.mem_map.1 hname
    exact Classical.byContradiction fun hc => h ⟨n, List.mem_range.1 hn, hc⟩
  have nodup : ((List.range (taken.length + 1)).map candidate).Nodup :=
    List.pairwise_map.2 (List.nodup_range.imp fun hmn hc => hmn (inj _ _ hc))
  have short := nodup.length_le_of_subset all
  rw [List.length_map, List.length_range] at short
  exact Nat.not_succ_le_self _ short

/-- The fresh name is the first of the candidates that is not taken. -/
theorem exists_fresh_eq (taken : List String) (candidate : Nat → String)
    (inj : ∀ m n, candidate m = candidate n → m = n) :
    ∃ n, n ≤ taken.length ∧ fresh taken candidate = candidate n ∧ candidate n ∉ taken ∧
      ∀ m, m < n → candidate m ∈ taken := by
  obtain ⟨free, hfree, hnew⟩ := exists_not_mem taken candidate inj
  have hsome : (freshIndex? taken candidate).isSome := by
    rw [freshIndex?, List.find?_isSome]
    exact ⟨free, List.mem_range.2 hfree, by simpa using hnew⟩
  obtain ⟨n, hn⟩ := Option.isSome_iff_exists.1 hsome
  obtain ⟨hnot, hrange, hbefore⟩ := List.find?_range_eq_some.1 hn
  refine ⟨n, Nat.lt_succ_iff.1 (List.mem_range.1 hrange), by rw [fresh, hn]; rfl, ?_, ?_⟩
  · simpa using hnot
  · exact fun m hm => by simpa using hbefore m hm

/-- The fresh name is not taken. -/
theorem fresh_not_mem (taken : List String) (candidate : Nat → String)
    (inj : ∀ m n, candidate m = candidate n → m = n) : fresh taken candidate ∉ taken := by
  obtain ⟨n, _, hname, hnew, _⟩ := exists_fresh_eq taken candidate inj
  rwa [hname]

/-- Numbers with the same digits are the same. -/
theorem eq_of_toString_eq {m n : Nat} (h : toString m = toString n) : m = n := by
  rw [Nat.toString_eq_ofList_toDigits, Nat.toString_eq_ofList_toDigits, String.ofList_inj] at h
  -- the number is read off its digits
  calc m = Nat.ofDigitChars 10 (Nat.toDigits 10 m) 0 := Nat.ofDigitChars_ten_toDigits.symm
    _ = n := by rw [h, Nat.ofDigitChars_ten_toDigits]

/-- A number is written with digits alone. -/
theorem not_mem_toString {c : Char} (hc : c.isDigit = false) (n : Nat) :
    c ∉ (toString n).toList := by
  rw [Nat.toString_eq_ofList_toDigits, String.toList_ofList]
  intro h
  rw [Nat.isDigit_of_mem_toDigits (by decide) (by decide) h] at hc
  cases hc

/-- The number at the start of a text ends with its first character that is no digit. -/
theorem takeWhile_toString_append (n : Nat) {rest : List Char}
    (hrest : ∀ c ∈ rest.head?, c.isDigit = false) :
    ((toString n).toList ++ rest).takeWhile Char.isDigit = (toString n).toList := by
  -- all characters of the number are digits, and the next one is none
  have hnumber : ∀ c ∈ (toString n).toList, c.isDigit = true := by
    intro c hc
    cases hdigit : c.isDigit with
    | true => rfl
    | false => exact absurd hc (not_mem_toString hdigit n)
  have hnone : rest.takeWhile Char.isDigit = [] := by
    cases rest with
    | nil => rfl
    | cons c behind => exact List.takeWhile_cons_of_neg (by simp [hrest c rfl])
  rw [List.takeWhile_append_of_pos hnumber, hnone, List.append_nil]

/-- Texts that start with different numbers, and go on with something else, are different. -/
theorem eq_of_toString_append_eq {m n : Nat} {rest rest' : List Char}
    (h : (toString m).toList ++ rest = (toString n).toList ++ rest')
    (hrest : ∀ c ∈ rest.head?, c.isDigit = false)
    (hrest' : ∀ c ∈ rest'.head?, c.isDigit = false) : m = n := by
  have hdigits := congrArg (List.takeWhile Char.isDigit) h
  rw [takeWhile_toString_append m hrest, takeWhile_toString_append n hrest'] at hdigits
  exact eq_of_toString_eq (String.toList_injective hdigits)

end CiWorkflow
