import LiveFlags.Url.Domain.Composed
import LiveFlags.Url.Domain.MappingTable

/-!
# Mapping domain names

Before a domain name is looked at, each of its characters is replaced by what it stands for, capital
letters by small ones among others, and the result is composed. A character that cannot stand in a
domain name makes the mapping fail. What is mapped already stays as it is (`isMapped`).
-/
namespace LiveFlags.Url.Domain

/-- What a code point stands for; none if it cannot stand in a domain name. -/
def mapCode? (code : Nat) : Option (List Nat) :=
  match mapped.values? code with
  | some codes => some codes
  | none =>
    if ignored.contains code then some []
    else if kept.contains code then some [code]
    else none

/-- The mapped and composed form of code points. -/
def mapCodes? (codes : List Nat) : Option (List Nat) :=
  (codes.mapM mapCode?).map fun parts => composed parts.flatten

/-- The code points are their own mapped and composed form. -/
def isMapped (codes : List Nat) : Bool :=
  codes.all (fun code => mapCode? code = some [code]) && composed codes = codes

end LiveFlags.Url.Domain
