/-!
Regular expressions as values: a source text and the options it was compiled with. Compiling checks
the syntax and collects the options that the source itself turns on; matching is not part of this
library.
-/

set_option autoImplicit false
set_option relaxedAutoImplicit false

namespace Treewalk

/-- The options of a regular expression. -/
structure Regexp.Options where
  ignoreCase : Bool := false
  dotAll : Bool := false
  extended : Bool := false
  multiLine : Bool := false
  asciiOnly : Bool := false
deriving DecidableEq, Repr, Inhabited

/-- A compiled regular expression. -/
structure Regexp where
  source : String
  options : Regexp.Options
deriving DecidableEq, Repr, Inhabited

namespace Regexp

/-- The option letters of the inspection form. -/
def Options.letters (options : Options) : String :=
  (if options.ignoreCase then "i" else "") ++ (if options.dotAll then "m" else "") ++
    (if options.extended then "x" else "")

/-- The options as words of the literal form. -/
def Options.words (options : Options) : List String :=
  (if options.ignoreCase then ["re.IGNORECASE"] else []) ++
    (if options.multiLine then ["re.MULTILINE"] else []) ++
    (if options.dotAll then ["re.DOTALL"] else []) ++
    (if options.extended then ["re.VERBOSE"] else []) ++
    (if options.asciiOnly then ["re.ASCII"] else [])

/-- The inspection form. -/
def inspect (r : Regexp) : String := "/" ++ r.source ++ "/" ++ r.options.letters

/-- Turns on the option of a letter; letters without an option are passed over. -/
def Options.enable (options : Options) (letter : Char) : Options :=
  if letter = 'i' then { options with ignoreCase := true }
  else if letter = 'm' then { options with dotAll := true }
  else if letter = 'x' then { options with extended := true }
  else options

/-- The options that a list of letters turns on. -/
def Options.ofLetters (letters : String) : Options :=
  letters.toList.foldl Options.enable {}

end Regexp

end Treewalk
