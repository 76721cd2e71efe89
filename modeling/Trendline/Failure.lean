import Trendline.Decimal.Style
import Trendline.Space
import Trendline.Text.Quoted

/-!
# Errors

Three kinds, from the inside to the outside.  A `FitError` says why one series
has no curve; whoever fits many groups skips that group and goes on.  A
`DataError` says why a table cannot be used; it ends the figure or request it
comes from.  A `Failure` ends the program: it has the message for the user and
the exit code, `2` for data and `3` for a fit.

Counts are 64-bit words, and a count that becomes too large for a word is no
error of any of these kinds: the program is stopped where that happens.  What
may be stopped has its errors in a `Stop`.
-/

namespace Trendline

/-- Why a computation has no result. -/
inductive Stop (ε : Type) where
  /-- It was refused with an error, and others may deal with that. -/
  | refused (error : ε)
  /-- A count was too large for a word.  Nobody deals with that. -/
  | overflow
  deriving DecidableEq, Repr

namespace Stop

variable {ε ε' α : Type}

/-- The same reason with another type of errors. -/
def map (f : ε → ε') : Stop ε → Stop ε'
  | refused e => refused (f e)
  | overflow => overflow

/-- A count that is there if it is a word. -/
def checked : Option α → Except (Stop ε) α
  | some a => .ok a
  | none => .error overflow

/-- Whether a computation was stopped by an overflow. -/
def isOverflow : Except (Stop ε) α → Bool
  | .error overflow => true
  | _ => false

theorem eq_of_isOverflow : {x : Except (Stop ε) α} → isOverflow x = true → x = .error overflow
  | .error overflow, _ => rfl

/-- The result of a computation that is not stopped by an overflow. -/
def settle : (x : Except (Stop ε) α) → x ≠ .error overflow → Except ε α
  | .ok a, _ => .ok a
  | .error (refused e), _ => .error e
  | .error overflow, h => absurd rfl h

/-- Nothing is lost by settling. -/
theorem mapError_settle : (x : Except (Stop ε) α) → (h : x ≠ .error overflow) →
    (settle x h).mapError refused = x
  | .ok _, _ => rfl
  | .error (refused _), _ => rfl
  | .error overflow, h => absurd rfl h

theorem mapError_refused_ne (x : Except ε α) : x.mapError refused ≠ .error overflow := by
  cases x <;> exact nofun

theorem mapError_map_ne {x : Except (Stop ε) α} (h : x ≠ .error overflow) (f : ε → ε') :
    x.mapError (map f) ≠ .error overflow := by
  match x, h with
  | .ok _, _ => exact nofun
  | .error (refused _), _ => exact nofun
  | .error overflow, h => exact absurd rfl h

/-- A chain does not overflow if none of its steps does. -/
theorem bind_ne {β : Type} {x : Except (Stop ε) α} {f : α → Except (Stop ε) β}
    (hx : x ≠ .error overflow) (hf : ∀ a, f a ≠ .error overflow) : x >>= f ≠ .error overflow := by
  match x, hx with
  | .ok a, _ => exact hf a
  | .error (refused _), _ => exact nofun
  | .error overflow, hx => exact absurd rfl hx

theorem mapM_ne {β : Type} {f : α → Except (Stop ε) β} (hf : ∀ a, f a ≠ .error overflow) :
    ∀ l : List α, l.mapM f ≠ .error overflow
  | [] => by rw [List.mapM_nil]; exact nofun
  | a :: rest => by
    rw [List.mapM_cons]
    exact bind_ne (hf a) fun b => bind_ne (mapM_ne hf rest) fun bs => nofun

end Stop

/-- Why a series cannot be fitted. -/
inductive FitError (α : Type) where
  /-- There are fewer points, or fewer distinct abscissae, than coefficients. -/
  | insufficientData (needed got : Nat)
  /-- A value has no logarithm. -/
  | nonPositive (axis : Axis) (index : Nat) (value : α)
  /-- All abscissae are the same. -/
  | degenerate (x : α)
  /-- A polynomial of degree zero was asked for. -/
  | zeroDegree
  /-- The least-squares system has no finite solution. -/
  | illConditioned
  deriving DecidableEq, Repr

/-- What the user is told about a series. -/
def FitError.message : FitError Float → String
  | insufficientData needed got => s!"Insufficient data: need at least {needed} points, got {got}"
  | nonPositive axis index value =>
    let shown := Decimal.Style.plain.write value
    let axis := axis.name
    s!"Non-positive {axis} value {shown} at index {index} (logarithm undefined)"
  | degenerate x =>
    let shown := Decimal.Style.plain.write x
    s!"All x values are identical ({shown}); the fit is underdetermined"
  | zeroDegree => "Polynomial degree must be at least 1"
  | illConditioned => "Least-squares system is too ill-conditioned to solve"

/-- What the operating system says about a path it cannot use. -/
inductive PathError where
  | notFound
  | notPermitted
  | alreadyExists
  | nameTooLong
  | notDirectory
  | isDirectory
  deriving DecidableEq, Repr

/-- The text of the operating system, with its number for the error. -/
def PathError.message : PathError → String
  | notFound => "No such file or directory (os error 2)"
  | notPermitted => "Permission denied (os error 13)"
  | alreadyExists => "File exists (os error 17)"
  | nameTooLong => "File name too long (os error 36)"
  | notDirectory => "Not a directory (os error 20)"
  | isDirectory => "Is a directory (os error 21)"

/-- Why the content of a table cannot be read. -/
inductive ReadFault where
  /-- The bytes cannot be had. -/
  | path (error : PathError)
  /--
  A field is not valid UTF-8.  Records count from the header as `0`; `line` and `byte` are where
  the record begins, and `valid` is the length of the part of the field that is valid.
  -/
  | encoding (record line field byte valid : Nat)
  deriving DecidableEq, Repr

/-- What the user is told about the content. -/
def ReadFault.message : ReadFault → String
  | path error => error.message
  | encoding record line field byte valid =>
    s!"CSV parse error: record {record} (line {line}, field: {field}, byte: {byte}): " ++
      s!"invalid utf-8: invalid UTF-8 in field {field} near byte index {valid}"

/-- Why a table cannot be used. -/
inductive DataError where
  /-- There is no file of that name. -/
  | fileNotFound (path : String)
  /-- The file is there but cannot be read as a table. -/
  | unreadable (source : String) (fault : ReadFault)
  /-- The header does not have the column. -/
  | missingColumn (source column : String)
  /-- A cell that is plotted is text. -/
  | invalidValue (source : String) (line : Nat) (column value : String)
  deriving DecidableEq, Repr

/-- What the user is told about a table. -/
def DataError.message : DataError → String
  | fileNotFound path => s!"Input file not found: '{path}'"
  | unreadable source fault =>
    let reason := fault.message
    s!"Failed to read '{source}': {reason}"
  | missingColumn source column => s!"Missing required column `{column}` in '{source}'"
  | invalidValue source line column value =>
    s!"Invalid value '{value}' for column `{column}` in '{source}' (line {line}): expected a number"

/-- What ends the program. -/
structure Failure where
  exitCode : Nat
  message : String
  deriving DecidableEq, Repr

namespace Failure

/-- Unusable data. -/
def ofData (e : DataError) : Failure :=
  ⟨2, e.message⟩

/-- A series without a curve. -/
def ofFit (e : FitError Float) : Failure :=
  ⟨3, e.message⟩

/-- Something that could not be written. -/
def writing (what reason : String) : Failure :=
  ⟨4, s!"Failed to write {what}: {reason}"⟩

/-- The failure as the log shows it. -/
def debugText (f : Failure) : String :=
  let code := f.exitCode
  let message := Text.quoted f.message
  s!"AppError \x7b exit_code: {code}, message: {message} \x7d"

end Failure

end Trendline
