import CiWorkflow.Text.Blank
import CiWorkflow.Text.WordChar
/-!
# Cron expressions and action references

The two small notations that the checks know.

- A cron expression is five words of digits, `*`, `,`, `/` and `-`.
- An action reference is `owner/repo`, then a path behind a slash if there is one, then a version
  behind an `@` if there is one; the version may also stand before the path. Local paths and
  container images are told by how they begin.
-/

namespace CiWorkflow.Lint

/-- Whether there is at least one character, and all of them belong to a class. -/
def isRun (p : Char → Bool) (cs : List Char) : Bool := !cs.isEmpty && cs.all p

/-! ## Cron expressions -/

/-- Whether a character may stand in a field of a cron expression. -/
def isCronChar (c : Char) : Bool :=
  c.isDigit || c == '*' || c == ',' || c == '/' || c == '-'

/-- Whether a text is a cron expression. -/
def isCron (text : String) : Bool :=
  let fields := Text.words text
  fields.length == 5 && fields.all fun f => isRun isCronChar f.toList

/-! ## Action references -/

/-- Whether a character may stand in the name of an owner, a repository or a version. -/
def isNameChar (c : Char) : Bool := Text.isWordChar c || c == '.' || c == '-'

/-- Whether a character may stand in a path. -/
def isPathChar (c : Char) : Bool := isNameChar c || c == '/'

/-- Whether a text is nothing, or an `@` with a version behind it. -/
def isVersionPart : List Char → Bool
  | [] => true
  | '@' :: version => isRun isNameChar version
  | _ => false

/-- Whether a text is a path behind a slash, if there is one, and a version. -/
def isPathPart : List Char → Bool
  | '/' :: rest =>
    isRun isPathChar (rest.takeWhile isPathChar) && isVersionPart (rest.dropWhile isPathChar)
  | cs => isVersionPart cs

/-- Whether a text goes on behind the repository: a version, if there is one, and a path. -/
def isRepositoryTail : List Char → Bool
  | '@' :: rest =>
    isRun isNameChar (rest.takeWhile isNameChar) && isPathPart (rest.dropWhile isNameChar)
  | cs => isPathPart cs

/-- Whether a text is the reference of a published action. -/
def isPublishedReference (cs : List Char) : Bool :=
  let owner := cs.takeWhile isNameChar
  match cs.dropWhile isNameChar with
  | '/' :: rest =>
    isRun isNameChar owner && isRun isNameChar (rest.takeWhile isNameChar) &&
      isRepositoryTail (rest.dropWhile isNameChar)
  | _ => false

/-- Whether a text refers to an action. -/
def isActionReference (text : String) : Bool :=
  text.startsWith "./" || text.startsWith "docker://" || isPublishedReference text.toList

end CiWorkflow.Lint
