/-!
Progressions of integers: from a start in equal steps up to a stop, which is left out. Everything is
told from the three numbers, however long a progression is.
-/

set_option autoImplicit false
set_option relaxedAutoImplicit false

namespace Treewalk.Progression

/-- How many integers a progression has. -/
def size (start stop step : Int) : Nat :=
  if step = 0 then 0
  else if 0 < step then ((stop - start + step - 1).fdiv step).toNat
  else ((start - stop - step - 1).fdiv (-step)).toNat

/-- The integer at a place. -/
def item (start step : Int) (place : Nat) : Int := start + step * (place : Int)

/-- The integers of a progression. -/
def items (start stop step : Int) : List Int :=
  (List.range (size start stop step)).map (item start step)

/-- The place of an integer. -/
def place? (start stop step : Int) (i : Int) : Option Nat :=
  if step = 0 then none
  else
    let distance := i - start
    let place := distance.fdiv step
    if place * step = distance && 0 ≤ place && place < size start stop step then some place.toNat
    else none

end Treewalk.Progression
