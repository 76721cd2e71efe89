import Trendline.Log.Note
import Trendline.Pattern.Matching
import Trendline.Pattern.Refusal

/-!
# Log filters

Which notes are shown.  A filter is written as directives with commas between
them: a level alone is for all targets, `target=level` is for the targets that
begin so, and a target alone shows all of its notes.  Of several directives for
a target the longest counts, and of equally long ones the last.  A pattern
after a slash has to occur in the note.
-/

namespace Trendline

/-- How much is shown of a target and what is below it, or of all targets if there is none. -/
structure LogDirective where
  target : Option String
  /-- The least important level that is shown; nothing is shown if there is none. -/
  level : Option LogLevel
  deriving DecidableEq, Repr

namespace LogDirective

/-- Whether the directive is for a target. -/
def covers (d : LogDirective) (target : String) : Bool :=
  d.target.all fun name => name.toList.isPrefixOf target.toList

/-- The length of the target, in bytes. -/
def length (d : LogDirective) : Nat :=
  (d.target.map String.utf8ByteSize).getD 0

end LogDirective

/-- What is shown of a log. -/
structure LogFilter where
  directives : List LogDirective
  /-- What has to occur in the note. -/
  pattern : Option Pattern := none
  deriving DecidableEq, Repr

/-- The levels, the most important first. -/
def LogLevel.all : List LogLevel :=
  [error, warn, info, debug, trace]

/-- The level of a name in any case, where `off` names none. -/
def LogLevel.ofName? (s : String) : Option (Option LogLevel) :=
  let s := String.ofList (s.toList.map Char.toUpper)
  if s = "OFF" then some none else (all.find? (·.name == s)).map some

namespace LogFilter

/-- The filter of an empty text. -/
def errorsOnly : LogFilter :=
  { directives := [⟨none, some .error⟩] }

/-- Sets a directive in place of one for the same target. -/
def set (ds : List LogDirective) (d : LogDirective) : List LogDirective :=
  if ds.any (·.target == d.target) then ds.map fun old => if old.target = d.target then d else old
  else ds ++ [d]

/-- Reads a directive, or tells what cannot be read. -/
def readDirective (s : String) : Except String LogDirective :=
  match s.toList.splitOn '=' with
  | [name] =>
    match LogLevel.ofName? (String.ofList name) with
    | some level => .ok ⟨none, level⟩
    | none => .ok ⟨some (String.ofList name), some .trace⟩
  | [name, level] =>
    let level := Text.trim (String.ofList level)
    if level.isEmpty then .ok ⟨some (String.ofList name), some .trace⟩
    else
      match LogLevel.ofName? level with
      | some level => .ok ⟨some (String.ofList name), level⟩
      | none => .error level
  | _ => .error s

/-- Reads directives, and collects warnings about what cannot be read. -/
def readDirectives : List String → List LogDirective → List LogDirective × List String
  | [], ds => (ds, [])
  | s :: rest, ds =>
    if s.isEmpty then readDirectives rest ds
    else
      match readDirective s with
      | .ok d => readDirectives rest (set ds d)
      | .error part =>
        let (ds, warnings) := readDirectives rest ds
        (ds, s!"invalid logging spec '{part}'" :: warnings)

/-- Reads a pattern, and warns if it is refused. -/
def readPattern (text : String) : Option Pattern × List String :=
  match Pattern.read text with
  | .ok p => (some p, [])
  | .error r => (none, ["invalid regex filter - " ++ r.message])

/-- The filter of a text, with warnings about what cannot be read. -/
def read (spec : String) : LogFilter × List String :=
  let finish := fun (names : List Char) (pattern : Option Pattern) (complaints : List String) =>
    let parts := (names.splitOn ',').map fun cs => Text.trim (String.ofList cs)
    let (directives, warnings) := readDirectives parts []
    let directives := if directives.isEmpty then errorsOnly.directives else directives
    ({ directives, pattern }, warnings ++ complaints)
  match spec.toList.splitOn '/' with
  | [names] => finish names none []
  | [names, text] =>
    let (pattern, complaints) := readPattern (String.ofList text)
    finish names pattern complaints
  | _ => (errorsOnly, [s!"invalid logging spec '{spec}' (too many '/'s)"])

/-- The directive for a target: the last of the longest that it begins with. -/
def directiveFor? (f : LogFilter) (target : String) : Option LogDirective :=
  (f.directives.filter (·.covers target)).foldl
    (fun best d =>
      match best with
      | some b => if b.length ≤ d.length then some d else some b
      | none => some d)
    none

/-- Whether a level is shown where `least` is the least important one. -/
def reaches (level : LogLevel) : Option LogLevel → Bool
  | some least => level.rank ≤ least.rank
  | none => false

/-- Whether a note is shown. -/
def shows (f : LogFilter) (n : Note) : Bool :=
  match f.directiveFor? n.target with
  | some d => reaches n.level d.level && f.pattern.all (·.occursIn n.text)
  | none => false

/-- The entries of the log. -/
def entries (f : LogFilter) (notes : List Note) : List String :=
  (notes.filter f.shows).map Note.entry

end LogFilter

end Trendline
