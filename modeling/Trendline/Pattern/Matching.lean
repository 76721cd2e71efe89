import Trendline.Pattern.Basic

/-!
# Matching

A pattern occurs in a text if it describes a part of the text.  The places of a
text, before its characters and at its end, are numbered from zero, and a set
of places is a number whose bits tell the members.  From the places where a
part may begin, `reach` computes those where it may end; the places where a
repetition may end are found when another round adds no place.
-/

namespace Trendline.Pattern

/-- A set of places of a text. -/
abbrev Places :=
  Nat

/-- A set of places from its lowest one and the others, which are one further on. -/
def Places.cons (here : Bool) (later : Places) : Places :=
  here.toNat + 2 * later

/-- The places before a character that satisfies the test. -/
def placesBefore (f : Char → Bool) : List Char → Places
  | [] => 0
  | c :: cs => Places.cons (f c) (placesBefore f cs)

/-- The places at which a condition holds, in a text that follows a character. -/
def placesOf (a : Anchor) (before : Option Char) : List Char → Places
  | [] => Places.cons (a.holds before none) 0
  | c :: cs => Places.cons (a.holds before (some c)) (placesOf a (some c) cs)

/-- All places of a text. -/
def allPlaces : List Char → Places
  | [] => 1
  | _ :: cs => Places.cons true (allPlaces cs)

/-- Applies a step again and again, until it makes no difference any more. -/
def iterate (step : Places → Places) : Nat → Places → Places
  | 0, m => m
  | n + 1, m =>
    let next := step m
    if next = m then m else iterate step n next

/-- The places reached by no more than a number of steps. -/
def reachWithin (step : Places → Places) (n : Nat) (m : Places) : Places :=
  iterate (fun m => m ||| step m) n m

/-- The places where the pattern may end if it begins at one of `m`. -/
def reach (text : List Char) : Pattern → Places → Places
  | empty, m => m
  | one s, m => (m &&& placesBefore s.contains text) <<< 1
  | anchor a, m => m &&& placesOf a none text
  | seq p q, m => q.reach text (p.reach text m)
  | alt p q, m => p.reach text m ||| q.reach text m
  | rep p least most, m =>
    let rounds := match most with
      | some most => most - least
      | none => text.length + 1
    reachWithin (p.reach text) rounds (iterate (p.reach text) least m)
  | group p, m => p.reach text m

/-- Whether the pattern describes a part of the text. -/
def occursIn (p : Pattern) (text : String) : Bool :=
  p.reach text.toList (allPlaces text.toList) != 0

end Trendline.Pattern
