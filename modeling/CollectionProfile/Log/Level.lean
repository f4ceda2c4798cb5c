import CollectionProfile.Text.Decimal

/-!
# Log levels

How much a message matters, and limits on what is let through.
-/

namespace CollectionProfile.Log

/-- How much a message matters. -/
inductive Level
  | error
  | warn
  | info
  | debug
  | trace
deriving DecidableEq, Repr, Inhabited

namespace Level

/-- All levels, the one that matters most first. -/
def all : List Level := [.error, .warn, .info, .debug, .trace]

/-- The place of a level among all levels; the higher, the less the message matters. -/
def rank : Level → Nat
  | .error => 1
  | .warn => 2
  | .info => 3
  | .debug => 4
  | .trace => 5

/-- The name of a level in small letters. -/
def name : Level → String
  | .error => "error"
  | .warn => "warn"
  | .info => "info"
  | .debug => "debug"
  | .trace => "trace"

/-- The name of a level in capital letters. -/
def label : Level → String
  | .error => "ERROR"
  | .warn => "WARN"
  | .info => "INFO"
  | .debug => "DEBUG"
  | .trace => "TRACE"

end Level

/-- The last level that is let through, if any is. -/
abbrev Limit := Option Level

namespace Limit

/-- The place of a limit among all limits; zero lets nothing through. -/
def rank (limit : Limit) : Nat := limit.elim 0 Level.rank

/-- Whether a limit lets a level through. -/
def allows (limit : Limit) (level : Level) : Bool := level.rank ≤ limit.rank

/-- The name of a limit. -/
def name (limit : Limit) : String := limit.elim "off" Level.name

/-- The limit at a place, or the nearest one where there is none. -/
def ofRank (rank : Int) : Limit :=
  if rank ≤ 0 then none else Level.all[min rank.toNat 5 - 1]?

/-- The limit with a name, in letters of either case, or with a number, which may have a plus sign
and zeros in front. The empty text names the limit for errors. -/
def ofText? (text : String) : Option Limit :=
  let small := String.ofList (text.toList.map Char.toLower)
  if small = "" then some (some .error)
  else if small = "off" then some none
  else match Level.all.find? (·.name = small) with
    | some level => some (some level)
    | none =>
      match Text.unsigned? text.toList with
      | some rank => if rank ≤ 5 then some (ofRank rank) else none
      | none => none

/-- The wider of two limits. -/
def max (a b : Limit) : Limit := if a.rank ≤ b.rank then b else a

end Limit

end CollectionProfile.Log
