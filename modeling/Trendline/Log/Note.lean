/-!
# Notes for the log

What the program does is a function of its input, and so is what it notes about
it.  A `Noted` computation has a result, as without a log, and the notes that
were taken on the way to it, also on the way to an error.
-/

namespace Trendline

/-- How important a note is, the most important first. -/
inductive LogLevel where
  | error
  | warn
  | info
  | debug
  | trace
  deriving DecidableEq, Repr

/-- The name of the level in the log. -/
def LogLevel.name : LogLevel → String
  | error => "ERROR"
  | warn => "WARN"
  | info => "INFO"
  | debug => "DEBUG"
  | trace => "TRACE"

/-- The place of the level in the order of importance, from one. -/
def LogLevel.rank : LogLevel → Nat
  | error => 1
  | warn => 2
  | info => 3
  | debug => 4
  | trace => 5

/-- One entry of the log. -/
structure Note where
  level : LogLevel
  /-- The part of the program that takes the note. -/
  target : String
  text : String
  deriving DecidableEq, Repr

/-- The entry as it is written to the log; its lines after the first one are indented. -/
def Note.entry (n : Note) : String :=
  let margin := "\n" ++ String.ofList (List.replicate 4 ' ')
  let text := String.intercalate margin ((n.text.toList.splitOn '\n').map String.ofList)
  n.level.name ++ " " ++ n.target ++ ": " ++ text ++ "\n"

/-- A result, or an error, with the notes taken before it. -/
structure Noted (ε α : Type) where
  notes : List Note
  result : Except ε α

namespace Noted

variable {ε ε' α β : Type}

instance : Monad (Noted ε) where
  pure a := ⟨[], .ok a⟩
  bind m f :=
    match m.result with
    | .ok a => ⟨m.notes ++ (f a).notes, (f a).result⟩
    | .error e => ⟨m.notes, .error e⟩

/-- A result without notes. -/
def ofExcept (r : Except ε α) : Noted ε α :=
  ⟨[], r⟩

/-- Takes a note. -/
def note (n : Note) : Noted ε Unit :=
  ⟨[n], .ok ()⟩

/-- Takes notes. -/
def noteAll (ns : List Note) : Noted ε Unit :=
  ⟨ns, .ok ()⟩

/-- The same computation with another type of errors. -/
def mapError (f : ε → ε') (m : Noted ε α) : Noted ε' α :=
  ⟨m.notes, m.result.mapError f⟩

@[simp] theorem result_pure (a : α) : (pure a : Noted ε α).result = .ok a := rfl

@[simp] theorem result_bind (m : Noted ε α) (f : α → Noted ε β) :
    (m >>= f).result = m.result >>= fun a => (f a).result := by
  simp only [bind]
  cases m.result <;> rfl

@[simp] theorem result_ofExcept (r : Except ε α) : (ofExcept r).result = r := rfl

@[simp] theorem result_note (n : Note) : (note n : Noted ε Unit).result = .ok () := rfl

@[simp] theorem result_noteAll (ns : List Note) : (noteAll ns : Noted ε Unit).result = .ok () := rfl

@[simp] theorem result_mapError (f : ε → ε') (m : Noted ε α) :
    (m.mapError f).result = m.result.mapError f := rfl

end Noted

end Trendline
