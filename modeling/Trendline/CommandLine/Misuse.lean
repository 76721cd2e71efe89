/-!
# Misuse of the command line

Why a command line is refused, and the other ways to end before a command is
run: the user asks for help, or for the version.
-/

namespace Trendline.CommandLine

/-- Why the value of an argument is refused. -/
inductive ValueFault where
  /-- It is empty, and must not be. -/
  | absent
  /-- It is none of the names to choose from. -/
  | notAmong (value : String)
  /-- It cannot be read, for a reason. -/
  | rejected (value reason : String)
  deriving DecidableEq, Repr

/-- Why a command line is refused; arguments are named as the help shows them. -/
inductive Misuse where
  | unknownArgument (word : String)
  | unknownCommand (word : String)
  | badValue (argument : String) (fault : ValueFault)
  | surplusValue (argument value : String)
  | repeated (argument : String)
  | missingArguments
  | missingCommand
  deriving DecidableEq, Repr

/-- What the user is told about a value. -/
def ValueFault.message (argument : String) : ValueFault → String
  | absent => s!"a value is required for '{argument}' but none was supplied"
  | notAmong value => s!"invalid value '{value}' for '{argument}'"
  | rejected value reason => s!"invalid value '{value}' for '{argument}': {reason}"

/-- What the user is told. -/
def Misuse.message : Misuse → String
  | unknownArgument word => s!"unexpected argument '{word}' found"
  | unknownCommand word => s!"unrecognized subcommand '{word}'"
  | badValue argument fault => fault.message argument
  | surplusValue argument value =>
    s!"unexpected value '{value}' for '{argument}' found; no more were expected"
  | repeated argument => s!"the argument '{argument}' cannot be used multiple times"
  | missingArguments => "the following required arguments were not provided:"
  | missingCommand => "'sizes' requires a subcommand but one was not provided"

/-- How the reading of a command line ends when no command is to be run. -/
inductive Ending where
  /-- The user asks for help. -/
  | help
  /-- The user asks for the version. -/
  | version
  /-- There is nothing on the command line, and help is shown instead. -/
  | nothing
  | misuse (m : Misuse)
  deriving DecidableEq, Repr

end Trendline.CommandLine
