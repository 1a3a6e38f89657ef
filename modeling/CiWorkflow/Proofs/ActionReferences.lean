import CiWorkflow.Lint.Grammar
import Mathlib.Data.List.Basic
/-!
# Action References

A published action is documented to be named by `owner/repo`, a path behind a slash if there is one,
and a version behind an `@` if there is one. The check goes through a text from its beginning, and
takes a version also in front of the path. So it takes two versions where there should be one, and a
version with slashes only where it can be taken for a version and a path. Besides these references
it accepts just the documented ones.

## Layers

- **Pieces**: runs of characters, and parts that may be missing.
- **The check** as a grammar, piece by piece.
- **The documented form**, and the two kinds of references about which the check differs from it.
-/

namespace CiWorkflow.Lint

/-! ## Pieces -/

/-- At least one character, and all of a class. -/
structure Run (p : Char → Bool) (cs : List Char) : Prop where
  ne_nil : cs ≠ []
  all : ∀ c ∈ cs, p c = true

/-- A part that may be missing: a mark with a run behind it. -/
def Part (mark : Char) (p : Char → Bool) (cs : List Char) : Prop :=
  cs = [] ∨ ∃ run, Run p run ∧ cs = mark :: run

/-- Every piece of the check comes down to this test, which computes what a run is. -/
theorem isRun_iff {p : Char → Bool} {cs : List Char} : isRun p cs = true ↔ Run p cs := by
  unfold isRun
  rw [Bool.and_eq_true, Bool.not_eq_true', List.isEmpty_eq_false_iff, List.all_eq_true]
  exact ⟨fun h => ⟨h.1, h.2⟩, fun h => ⟨h.ne_nil, h.all⟩⟩

/-- A run is cut off where something begins that does not belong to it. -/
theorem Run.takeWhile_append {p : Char → Bool} {run rest : List Char} (hrun : Run p run)
    (hstop : rest.takeWhile p = []) :
    (run ++ rest).takeWhile p = run ∧ (run ++ rest).dropWhile p = rest := by
  have hdrop : rest.dropWhile p = rest := by
    have hsplit := List.takeWhile_append_dropWhile (p := p) (l := rest)
    rwa [hstop, List.nil_append] at hsplit
  rw [List.takeWhile_append_of_pos hrun.all, List.dropWhile_append_of_pos hrun.all, hstop, hdrop,
    List.append_nil]
  exact ⟨rfl, rfl⟩

/-- Taking as much as possible first is no loss, if what comes next can only begin otherwise. -/
theorem isRun_takeWhile_iff {p : Char → Bool} {next : List Char → Bool}
    (hnext : ∀ rest, next rest = true → rest.takeWhile p = []) {cs : List Char} :
    (isRun p (cs.takeWhile p) && next (cs.dropWhile p)) = true ↔
      ∃ run rest, Run p run ∧ next rest = true ∧ cs = run ++ rest := by
  rw [Bool.and_eq_true, isRun_iff]
  constructor
  · rintro ⟨hrun, hrest⟩
    exact ⟨_, _, hrun, hrest, List.takeWhile_append_dropWhile.symm⟩
  · rintro ⟨run, rest, hrun, hrest, rfl⟩
    obtain ⟨htake, hdrop⟩ := hrun.takeWhile_append (hnext rest hrest)
    rw [htake, hdrop]
    exact ⟨hrun, hrest⟩

@[simp] theorem isNameChar_slash : isNameChar '/' = false := by decide +kernel

@[simp] theorem isNameChar_at : isNameChar '@' = false := by decide +kernel

@[simp] theorem isPathChar_at : isPathChar '@' = false := by decide +kernel

theorem isPathChar_iff {c : Char} : isPathChar c = true ↔ isNameChar c = true ∨ c = '/' := by
  simp [isPathChar]

variable {cs run : List Char}

theorem Run.toPath (h : Run isNameChar run) : Run isPathChar run :=
  ⟨h.ne_nil, fun c hc => isPathChar_iff.mpr (.inl (h.all c hc))⟩

/-- What a path holds beyond a name are slashes alone. -/
theorem Run.toName (h : Run isPathChar run) (hslash : '/' ∉ run) : Run isNameChar run :=
  ⟨h.ne_nil, fun c hc => (isPathChar_iff.mp (h.all c hc)).resolve_right fun heq =>
    hslash (heq ▸ hc)⟩

theorem Run.slash_not_mem (h : Run isNameChar run) : '/' ∉ run := fun hmem => by
  simpa using h.all _ hmem

theorem Run.at_not_mem (h : Run isPathChar run) : '@' ∉ run := fun hmem => by
  simpa using h.all _ hmem

theorem Part.toPath (h : Part '@' isNameChar cs) : Part '@' isPathChar cs :=
  h.imp_right fun ⟨run, hrun, hcs⟩ => ⟨run, hrun.toPath, hcs⟩

/-- A slash that marks a path may stand in it as well. -/
theorem Part.isPathChar_of_mem (h : Part '/' isPathChar cs) {c : Char} (hc : c ∈ cs) :
    isPathChar c = true := by
  rcases h with rfl | ⟨run, hrun, rfl⟩
  · cases hc
  · rcases List.mem_cons.mp hc with rfl | hc
    · exact isPathChar_iff.mpr (.inr rfl)
    · exact hrun.all c hc

/-- A path holds no `@`, so that the version behind it is cut off at the right place. -/
theorem Part.at_not_mem (h : Part '/' isPathChar cs) : '@' ∉ cs := fun hmem => by
  simpa using h.isPathChar_of_mem hmem

/-! ## The check -/

/-- The test for a version reads the whole rest of a text. -/
theorem isVersionPart_iff : isVersionPart cs = true ↔ Part '@' isNameChar cs := by
  unfold isVersionPart Part
  split
  · simp
  · simp [isRun_iff]
  · next hnil hat =>
    simp only [Bool.false_eq_true, false_iff]
    rintro (rfl | ⟨run, _, rfl⟩)
    · exact hnil rfl
    · exact hat run rfl

/-- The test for a path goes on with a version, which the first `@` begins. -/
theorem isPathPart_iff :
    isPathPart cs = true ↔ ∃ path version, Part '/' isPathChar path ∧
      Part '@' isNameChar version ∧ cs = path ++ version := by
  unfold isPathPart
  split
  · next rest =>
    have hnext : ∀ rest, isVersionPart rest = true → rest.takeWhile isPathChar = [] := by
      intro rest hrest
      rcases isVersionPart_iff.mp hrest with rfl | ⟨run, _, rfl⟩
      · rfl
      · simp
    rw [isRun_takeWhile_iff hnext]
    constructor
    · rintro ⟨run, version, hrun, hversion, rfl⟩
      exact ⟨'/' :: run, version, .inr ⟨run, hrun, rfl⟩, isVersionPart_iff.mp hversion, rfl⟩
    · rintro ⟨path, version, rfl | ⟨run, hrun, rfl⟩, hversion, heq⟩
      · -- a version has another mark
        rcases hversion with rfl | ⟨run, _, rfl⟩ <;> simp at heq
      · rw [List.cons_append, List.cons.injEq] at heq
        exact ⟨run, version, hrun, isVersionPart_iff.mpr hversion, heq.2⟩
  · next hslash =>
    rw [isVersionPart_iff]
    constructor
    · exact fun h => ⟨[], cs, .inl rfl, h, rfl⟩
    · rintro ⟨path, version, rfl | ⟨run, _, rfl⟩, hversion, rfl⟩
      · exact hversion
      · exact absurd rfl (hslash _)

/-- Behind the repository comes a version, then a path, then a version again, and each may be
missing. This is where the check departs from the documented form. -/
theorem isRepositoryTail_iff :
    isRepositoryTail cs = true ↔ ∃ first path last, Part '@' isNameChar first ∧
      Part '/' isPathChar path ∧ Part '@' isNameChar last ∧ cs = first ++ (path ++ last) := by
  unfold isRepositoryTail
  split
  · next rest =>
    have hnext : ∀ rest, isPathPart rest = true → rest.takeWhile isNameChar = [] := by
      intro rest hrest
      obtain ⟨path, version, rfl | ⟨run, _, rfl⟩, rfl | ⟨run', _, rfl⟩, rfl⟩ :=
        isPathPart_iff.mp hrest <;> simp
    rw [isRun_takeWhile_iff hnext]
    constructor
    · rintro ⟨run, tail, hrun, htail, rfl⟩
      obtain ⟨path, last, hpath, hlast, rfl⟩ := isPathPart_iff.mp htail
      exact ⟨'@' :: run, path, last, .inr ⟨run, hrun, rfl⟩, hpath, hlast, rfl⟩
    · rintro ⟨first, path, last, rfl | ⟨run, hrun, rfl⟩, hpath, hlast, heq⟩
      · -- the last version may as well be the first one
        rcases hpath with rfl | ⟨run, _, rfl⟩
        · rcases hlast with rfl | ⟨run, hrun, rfl⟩
          · cases heq
          · cases heq
            exact ⟨_, [], hrun, rfl, (List.append_nil _).symm⟩
        · simp at heq
      · rw [List.cons_append, List.cons.injEq] at heq
        exact ⟨run, path ++ last, hrun, isPathPart_iff.mpr ⟨path, last, hpath, hlast, rfl⟩, heq.2⟩
  · next hat =>
    rw [isPathPart_iff]
    constructor
    · rintro ⟨path, last, hpath, hlast, rfl⟩
      exact ⟨[], path, last, .inl rfl, hpath, hlast, rfl⟩
    · rintro ⟨first, path, last, rfl | ⟨run, _, rfl⟩, hpath, hlast, rfl⟩
      · exact ⟨path, last, hpath, hlast, rfl⟩
      · exact absurd rfl (hat _)

/-- Whether a text is the name of a repository behind a slash, with what may come behind it. -/
def isRepositoryPart : List Char → Bool
  | '/' :: rest =>
    isRun isNameChar (rest.takeWhile isNameChar) && isRepositoryTail (rest.dropWhile isNameChar)
  | _ => false

/-- The repository goes as far as names go, and all else is left to the tail. -/
theorem isRepositoryPart_iff :
    isRepositoryPart cs = true ↔ ∃ repo tail, Run isNameChar repo ∧ isRepositoryTail tail = true ∧
      cs = '/' :: (repo ++ tail) := by
  unfold isRepositoryPart
  split
  · -- what comes behind the name begins with one of the two marks, if there is anything
    have hnext : ∀ tail, isRepositoryTail tail = true → tail.takeWhile isNameChar = [] := by
      intro tail htail
      obtain ⟨first, path, last, rfl | ⟨_, _, rfl⟩, rfl | ⟨_, _, rfl⟩, rfl | ⟨_, _, rfl⟩, rfl⟩ :=
        isRepositoryTail_iff.mp htail <;> simp
    rw [isRun_takeWhile_iff hnext]
    simp only [List.cons.injEq, true_and]
  · next hslash =>
    simp only [Bool.false_eq_true, false_iff]
    rintro ⟨repo, tail, _, _, rfl⟩
    exact hslash _ rfl

theorem isPublishedReference_eq (cs : List Char) :
    isPublishedReference cs =
      (isRun isNameChar (cs.takeWhile isNameChar) &&
        isRepositoryPart (cs.dropWhile isNameChar)) := by
  unfold isPublishedReference
  dsimp only
  split
  · next rest hdrop => rw [hdrop, isRepositoryPart, Bool.and_assoc]
  · next hslash => rw [isRepositoryPart.eq_2 _ hslash, Bool.and_false]

/-- A text is `owner/repo`, and what comes behind it is of some kind. -/
def InRepository (tail : List Char → Prop) (cs : List Char) : Prop :=
  ∃ owner repo rest, Run isNameChar owner ∧ Run isNameChar repo ∧ tail rest ∧
    cs = owner ++ '/' :: (repo ++ rest)

/-- The check as a grammar: owner, slash, repository, and whatever the tail admits. -/
theorem isPublishedReference_iff :
    isPublishedReference cs = true ↔
      InRepository (fun rest => isRepositoryTail rest = true) cs := by
  -- the owner ends at the slash, so cutting off all of it leaves the repository whole
  have hnext : ∀ rest, isRepositoryPart rest = true → rest.takeWhile isNameChar = [] := by
    intro rest hrest
    obtain ⟨repo, tail, _, _, rfl⟩ := isRepositoryPart_iff.mp hrest
    simp
  rw [isPublishedReference_eq, isRun_takeWhile_iff hnext]
  simp only [isRepositoryPart_iff]
  constructor
  · rintro ⟨owner, _, howner, ⟨repo, tail, hrepo, htail, rfl⟩, rfl⟩
    exact ⟨owner, repo, tail, howner, hrepo, htail, rfl⟩
  · rintro ⟨owner, repo, tail, howner, hrepo, htail, rfl⟩
    exact ⟨owner, _, howner, ⟨repo, tail, hrepo, htail, rfl⟩, rfl⟩

/-! ## The documented form -/

/-- A version can be taken for a version and a path, since there is no path in front of it. -/
def ReadsAsPath (path version : List Char) : Prop :=
  path = [] ∧ ∃ first more, Run isNameChar first ∧ Run isPathChar more ∧
    version = first ++ '/' :: more

/-- The documented form: `owner/repo`, with a path and a version or without. -/
def Documented : List Char → Prop :=
  InRepository fun rest => ∃ path version, Part '/' isPathChar path ∧
    Part '@' isPathChar version ∧ rest = path ++ version

/-- A reference with a version that has slashes and cannot be taken for a version and a path. -/
def SlashedVersion : List Char → Prop :=
  InRepository fun rest => ∃ path version, Part '/' isPathChar path ∧ Run isPathChar version ∧
    '/' ∈ version ∧ ¬ReadsAsPath path version ∧ rest = path ++ '@' :: version

/-- A reference with two versions, and maybe a path between them. -/
def VersionedTwice : List Char → Prop :=
  InRepository fun rest => ∃ first path last, Run isNameChar first ∧ Part '/' isPathChar path ∧
    Run isNameChar last ∧ rest = '@' :: (first ++ (path ++ '@' :: last))

/-- A version with slashes is within the documented form. -/
theorem SlashedVersion.documented (h : SlashedVersion cs) : Documented cs := by
  obtain ⟨owner, repo, _, howner, hrepo, ⟨path, version, hpath, hversion, _, _, rfl⟩, rfl⟩ := h
  exact ⟨owner, repo, _, howner, hrepo, ⟨path, _, hpath, .inr ⟨_, hversion, rfl⟩, rfl⟩, rfl⟩

/-- Of the documented versions those are accepted that have no slashes or can be taken for a version
and a path. -/
theorem isRepositoryTail_version_iff {path version : List Char} (hpath : Part '/' isPathChar path)
    (hversion : Run isPathChar version) :
    isRepositoryTail (path ++ '@' :: version) = true ↔
      '/' ∉ version ∨ ReadsAsPath path version := by
  have hat := hversion.at_not_mem
  rw [isRepositoryTail_iff]
  constructor
  · rintro ⟨first, between, last, hfirst, hbetween, hlast, heq⟩
    rcases hfirst with rfl | ⟨f, hf, rfl⟩
    · -- the version is the last one, since the path has no `@`
      left
      rcases hlast with rfl | ⟨l, hl, rfl⟩
      · have hmem : '@' ∈ path ++ '@' :: version := by simp
        rw [heq, List.nil_append, List.append_nil] at hmem
        exact absurd hmem hbetween.at_not_mem
      · obtain ⟨_, _, rfl⟩ := (List.append_cons_inj_of_notMem hpath.at_not_mem hat).mp heq
        exact hl.slash_not_mem
    · -- the version is the first one, and so there is no path in front of it
      rcases hpath with rfl | ⟨p, _, rfl⟩
      · rw [List.nil_append, List.cons_append, List.cons.injEq] at heq
        obtain ⟨_, rfl⟩ := heq
        rcases hlast with rfl | ⟨l, _, rfl⟩
        · rw [List.append_nil]
          rcases hbetween with rfl | ⟨more, hmore, rfl⟩
          · left
            rw [List.append_nil]
            exact hf.slash_not_mem
          · exact .inr ⟨rfl, f, more, hf, hmore, rfl⟩
        · simp at hat
      · simp at heq
  · rintro (hslash | ⟨rfl, first, more, hfirst, hmore, rfl⟩)
    · exact ⟨[], path, '@' :: version, .inl rfl, hpath, .inr ⟨_, hversion.toName hslash, rfl⟩, rfl⟩
    · exact ⟨'@' :: first, '/' :: more, [], .inr ⟨_, hfirst, rfl⟩, .inr ⟨_, hmore, rfl⟩, .inl rfl,
        by simp⟩

/-- The documented form has at most one `@`. -/
theorem Documented.count_at_le_one (h : Documented cs) : cs.count '@' ≤ 1 := by
  obtain ⟨owner, repo, _, howner, hrepo, ⟨path, version, hpath, hversion, rfl⟩, rfl⟩ := h
  have howner' := List.count_eq_zero.mpr howner.toPath.at_not_mem
  have hrepo' := List.count_eq_zero.mpr hrepo.toPath.at_not_mem
  have hpath' := List.count_eq_zero.mpr hpath.at_not_mem
  rcases hversion with rfl | ⟨run, hrun, rfl⟩
  · simp [howner', hrepo', hpath']
  · simp [howner', hrepo', hpath', List.count_eq_zero.mpr hrun.at_not_mem]

/-- The marks tell two versions from one, whatever else the text holds. -/
theorem VersionedTwice.count_at (h : VersionedTwice cs) : cs.count '@' = 2 := by
  obtain ⟨owner, repo, _, howner, hrepo, ⟨first, path, last, hfirst, hpath, hlast, rfl⟩, rfl⟩ := h
  simp [List.count_eq_zero.mpr howner.toPath.at_not_mem,
    List.count_eq_zero.mpr hrepo.toPath.at_not_mem, List.count_eq_zero.mpr hpath.at_not_mem,
    List.count_eq_zero.mpr hfirst.toPath.at_not_mem, List.count_eq_zero.mpr hlast.toPath.at_not_mem]

/-- A documented reference has at most one mark. -/
theorem VersionedTwice.not_documented (h : VersionedTwice cs) : ¬Documented cs := fun hdoc => by
  have hle := hdoc.count_at_le_one
  rw [h.count_at] at hle
  omega

/-- Behind `owner/repo` the check goes on with what is there. -/
theorem isPublishedReference_append {owner repo rest : List Char} (howner : Run isNameChar owner)
    (hrepo : Run isNameChar repo) (hstop : rest.takeWhile isNameChar = []) :
    isPublishedReference (owner ++ '/' :: (repo ++ rest)) = isRepositoryTail rest := by
  have hslash : ('/' :: (repo ++ rest)).takeWhile isNameChar = [] := by simp
  obtain ⟨htake, hdrop⟩ := howner.takeWhile_append hslash
  obtain ⟨htake', hdrop'⟩ := hrepo.takeWhile_append hstop
  rw [isPublishedReference_eq, htake, hdrop, isRepositoryPart, htake', hdrop', isRun_iff.mpr howner,
    isRun_iff.mpr hrepo, Bool.true_and, Bool.true_and]

/-- References that the check turns down though they are documented. -/
theorem SlashedVersion.isPublishedReference_eq_false (h : SlashedVersion cs) :
    isPublishedReference cs = false := by
  obtain ⟨owner, repo, _, howner, hrepo, htail, rfl⟩ := h
  obtain ⟨path, version, hpath, hversion, hslash, hreads, rfl⟩ := htail
  have hstop : (path ++ '@' :: version).takeWhile isNameChar = [] := by
    rcases hpath with rfl | ⟨run, _, rfl⟩ <;> simp
  rw [isPublishedReference_append howner hrepo hstop, Bool.eq_false_iff, Ne,
    isRepositoryTail_version_iff hpath hversion, not_or]
  exact ⟨not_not_intro hslash, hreads⟩

/-- What the check goes on with is documented, or has two versions. -/
theorem documented_or_versionedTwice (h : isPublishedReference cs = true) :
    Documented cs ∨ VersionedTwice cs := by
  obtain ⟨owner, repo, _, howner, hrepo, htail, rfl⟩ := isPublishedReference_iff.mp h
  obtain ⟨first, path, last, hfirst, hpath, hlast, rfl⟩ := isRepositoryTail_iff.mp htail
  rcases hfirst with rfl | ⟨f, hf, rfl⟩
  · exact .inl ⟨owner, repo, _, howner, hrepo, ⟨path, last, hpath, hlast.toPath, rfl⟩, rfl⟩
  · rcases hlast with rfl | ⟨l, hl, rfl⟩
    · -- the path belongs to the version
      have hversion : Run isPathChar (f ++ path) := by
        refine ⟨by simp [hf.ne_nil], fun c hc => ?_⟩
        rcases List.mem_append.mp hc with hc | hc
        · exact hf.toPath.all c hc
        · exact hpath.isPathChar_of_mem hc
      refine .inl ⟨owner, repo, _, howner, hrepo,
        ⟨[], '@' :: (f ++ path), .inl rfl, .inr ⟨_, hversion, rfl⟩, ?_⟩, rfl⟩
      rw [List.append_nil, List.cons_append, List.nil_append]
    · exact .inr ⟨owner, repo, _, howner, hrepo, ⟨f, path, l, hf, hpath, hl, rfl⟩, rfl⟩

/-- All other documented references pass. -/
theorem Documented.isPublishedReference (h : Documented cs) (hfits : ¬SlashedVersion cs) :
    isPublishedReference cs = true := by
  obtain ⟨owner, repo, _, howner, hrepo, ⟨path, version, hpath, hversion, rfl⟩, rfl⟩ := h
  refine isPublishedReference_iff.mpr ⟨owner, repo, _, howner, hrepo, ?_, rfl⟩
  rcases hversion with rfl | ⟨v, hv, rfl⟩
  · exact isRepositoryTail_iff.mpr ⟨[], path, [], .inl rfl, hpath, .inl rfl, rfl⟩
  · rw [isRepositoryTail_version_iff hpath hv]
    by_contra hnot
    obtain ⟨hslash, hreads⟩ := not_or.mp hnot
    exact hfits ⟨owner, repo, _, howner, hrepo,
      ⟨path, v, hpath, hv, not_not.mp hslash, hreads, rfl⟩, rfl⟩

/-- References that pass though they are not documented. -/
theorem VersionedTwice.isPublishedReference (h : VersionedTwice cs) :
    isPublishedReference cs = true := by
  obtain ⟨owner, repo, _, howner, hrepo, ⟨first, path, last, hfirst, hpath, hlast, rfl⟩, rfl⟩ := h
  refine isPublishedReference_iff.mpr ⟨owner, repo, _, howner, hrepo, ?_, rfl⟩
  exact isRepositoryTail_iff.mpr ⟨'@' :: first, path, '@' :: last, .inr ⟨_, hfirst, rfl⟩, hpath,
    .inr ⟨_, hlast, rfl⟩, rfl⟩

/-- The check accepts the documented references but for some with slashes in their versions, and
besides them the references with two versions. -/
theorem isPublishedReference_iff_documented :
    isPublishedReference cs = true ↔
      (Documented cs ∧ ¬SlashedVersion cs) ∨ VersionedTwice cs := by
  constructor
  · intro h
    have hfits : ¬SlashedVersion cs := fun hslashed =>
      Bool.false_ne_true (hslashed.isPublishedReference_eq_false.symm.trans h)
    exact (documented_or_versionedTwice h).imp_left fun hdoc => ⟨hdoc, hfits⟩
  · rintro (⟨hdoc, hfits⟩ | htwice)
    · exact hdoc.isPublishedReference hfits
    · exact htwice.isPublishedReference

/-- The check is right about all references but these two kinds. -/
theorem isPublishedReference_eq_documented_iff :
    (isPublishedReference cs = true ↔ Documented cs) ↔
      ¬SlashedVersion cs ∧ ¬VersionedTwice cs := by
  constructor
  · -- each of the two kinds tells the check from the form by itself
    intro h
    constructor
    · intro hslashed
      rw [hslashed.isPublishedReference_eq_false] at h
      exact Bool.false_ne_true (h.mpr hslashed.documented)
    · intro htwice
      exact htwice.not_documented (h.mp htwice.isPublishedReference)
  · rintro ⟨hslashed, htwice⟩
    rw [isPublishedReference_iff_documented, or_iff_left htwice, and_iff_left hslashed]

/-- A text begins like a local path or a container image. -/
def PathOrImage (text : String) : Prop :=
  "./".toList <+: text.toList ∨ "docker://".toList <+: text.toList

theorem isActionReference_eq_true_iff {text : String} :
    isActionReference text = true ↔ PathOrImage text ∨ isPublishedReference text.toList = true := by
  unfold isActionReference PathOrImage
  rw [Bool.or_eq_true, Bool.or_eq_true, String.startsWith_string_iff, String.startsWith_string_iff]

/-- **Action references are the documented ones, unless versions get in the way.** What begins like
a local path or a container image is accepted. Of all other texts the documented references are, but
for those with a version that has slashes and cannot be taken for a version and a path; and besides
them just the references with two versions are, none of which is documented. So these are the only
two kinds of texts about which the check is wrong. -/
theorem isActionReference_iff (text : String) :
    (isActionReference text = true ↔
      PathOrImage text ∨ (Documented text.toList ∧ ¬SlashedVersion text.toList) ∨
        VersionedTwice text.toList) ∧
    (SlashedVersion text.toList → Documented text.toList) ∧
    (VersionedTwice text.toList → ¬Documented text.toList) ∧
    ((isActionReference text = true ↔ PathOrImage text ∨ Documented text.toList) ↔
      PathOrImage text ∨ ¬SlashedVersion text.toList ∧ ¬VersionedTwice text.toList) := by
  refine ⟨?_, SlashedVersion.documented, VersionedTwice.not_documented, ?_⟩
  · rw [isActionReference_eq_true_iff, isPublishedReference_iff_documented]
  · rw [isActionReference_eq_true_iff, ← isPublishedReference_eq_documented_iff]
    by_cases hbegins : PathOrImage text
    · simp only [hbegins, true_or]
    · simp only [hbegins, false_or]

/-- A reference with two versions is accepted, and a documented one with a slash in its version is
not. -/
theorem isActionReference_not_documented :
    isActionReference "actions/cache@v3/save@v4" = true ∧
    ¬PathOrImage "actions/cache@v3/save@v4" ∧ ¬Documented "actions/cache@v3/save@v4".toList ∧
    isActionReference "actions/cache/save@releases/v4" = false ∧
    Documented "actions/cache/save@releases/v4".toList := by
  refine ⟨by decide +kernel, ?_, fun hdoc => ?_, by decide +kernel, ?_⟩
  · unfold PathOrImage
    decide
  · have hle := hdoc.count_at_le_one
    revert hle
    decide
  · exact ⟨"actions".toList, "cache".toList, "/save@releases/v4".toList,
      isRun_iff.mp (by decide +kernel), isRun_iff.mp (by decide +kernel),
      ⟨"/save".toList, "@releases/v4".toList,
        .inr ⟨"save".toList, isRun_iff.mp (by decide +kernel), rfl⟩,
        .inr ⟨"releases/v4".toList, isRun_iff.mp (by decide +kernel), rfl⟩, rfl⟩, rfl⟩

end CiWorkflow.Lint
