import ChatWarden.Lookup.Card
import ChatWarden.Proofs.Url.Addresses
import ChatWarden.Proofs.Url.Forms

/-!
# What is left of a page's address

The query of a page's address is read, the mark of the referrer is taken out, and the rest is
written again. Whatever escapes, plus signs and repeated names it had, the parameters that are left
are read as before, in their order. But reading skips parameters without a value, so these are gone
from the address that is shown.

Results:
* `withoutTracking?_parameters`: the parameters that are left.
* `tracking_removed_iff`: nothing else is lost just if every other parameter has a value.
-/

namespace ChatWarden.Lookup.Card

open Url (Address Pair pairs filledPairs encodePairs)

/-- The parameters of an address in their order, if it can be read. A parameter without a value has
    the empty one. -/
def parameters? (address : String) : Option (List Pair) :=
  (Address.ofText? address.toList).map fun parts => pairs parts.query

/-- The parameter tells who referred to the page. -/
def isTracking (pair : Pair) : Bool := pair.1 == "utm_source".toList

/-- What is written for a query is kept when an address is read. -/
theorem isKept_of_mem_encodePairs {c : Char} {list : List Pair} (hc : c ∈ encodePairs list) :
    Address.isKept c = true := by
  have hvisible := Url.isVisible_of_mem_encodePairs hc
  simp only [Url.isVisible, Bool.and_eq_true, decide_eq_true_eq] at hvisible
  exact Address.isKept_of_lt hvisible.1

/-- The query that takes the place of the one that was read. -/
def leftQuery (query : List Char) : List Char :=
  encodePairs ((filledPairs query).filter (!isTracking ·))

theorem withoutTracking?_eq {address : String} {parts : Address}
    (h : Address.ofText? address.toList = some parts) :
    withoutTracking? address =
      some (.ofList { parts with query := leftQuery parts.query }.text) := by
  unfold withoutTracking?
  rw [h]
  rfl

/-- The query of an address that was written is found in it. -/
theorem parameters?_written {address : String} {parts : Address}
    (h : Address.ofText? address.toList = some parts) :
    parameters? (.ofList { parts with query := leftQuery parts.query }.text) =
      some (pairs (leftQuery parts.query)) := by
  have hkept : Address.IsCut { parts with query := leftQuery parts.query } :=
    (Address.isCut_of_ofText? h).withQuery (Url.hash_notMem_encodePairs _)
      fun _ => isKept_of_mem_encodePairs
  rw [parameters?, String.toList_ofList, hkept.ofText?_text, Option.map_some]

/-- The parameters that are left are those with a value, but for the mark of the referrer. -/
theorem withoutTracking?_parameters (address : String) :
    (withoutTracking? address).bind parameters? = (parameters? address).map
      (List.filter fun pair => !isTracking pair && !pair.2.isEmpty) := by
  cases hread : Address.ofText? address.toList with
  | none =>
    have hnone : withoutTracking? address = none := by
      unfold withoutTracking?
      rw [hread]
      rfl
    rw [hnone, Option.bind_none, parameters?, hread, Option.map_none, Option.map_none]
  | some parts =>
    rw [withoutTracking?_eq hread, Option.bind_some, parameters?_written hread, leftQuery,
      Url.pairs_encodePairs, Url.filledPairs_eq, List.filter_filter, parameters?, hread,
      Option.map_some, Option.map_some]

/-- **Addresses without tracking.** An address that can be read stays one, and its parameters are
    then those that have a value, in their order, without the mark of the referrer. So this mark is
    all that is lost just if every other parameter has a value. -/
theorem tracking_removed_iff (address : String) :
    (withoutTracking? address).bind parameters? = (parameters? address).map
      (List.filter fun pair => !isTracking pair && !pair.2.isEmpty) ∧
    ((withoutTracking? address).bind parameters? = (parameters? address).map
        (List.filter fun pair => !isTracking pair) ↔
      ∀ list, parameters? address = some list → ∀ pair ∈ list, pair.2 = [] →
        isTracking pair = true) := by
  refine ⟨withoutTracking?_parameters address, ?_⟩
  rw [withoutTracking?_parameters]
  cases parameters? address with
  | none => simp
  | some list =>
    have hsplit : (list.filter fun pair => !isTracking pair && !pair.2.isEmpty) =
        (list.filter fun pair => !isTracking pair).filter fun pair => !pair.2.isEmpty := by
      rw [List.filter_filter]
      apply List.filter_congr
      intro pair _
      exact Bool.and_comm _ _
    rw [Option.map_some, Option.map_some, Option.some_inj, hsplit, List.filter_eq_self]
    constructor
    · rintro h others hothers pair hpair hempty
      obtain rfl := Option.some.inj hothers
      by_contra hother
      have hvalue := h pair (List.mem_filter.mpr ⟨hpair, by simpa using hother⟩)
      rw [hempty] at hvalue
      cases hvalue
    · intro h pair hpair
      obtain ⟨hmem, hother⟩ := List.mem_filter.mp hpair
      cases hvalue : pair.2 with
      | nil =>
        rw [h list rfl pair hmem hvalue] at hother
        cases hother
      | cons c rest => rfl

/-- Repeated names, escapes and plus signs are no obstacle. -/
example : withoutTracking? "https://scryfall.com/x?a=1&utm%5Fsource=api&a=%C3%A9+%26&b==" =
    some "https://scryfall.com/x?a=1&a=%C3%A9+%26&b=%3D" := by decide +kernel

/-- A parameter without a value is lost along with the mark of the referrer. -/
theorem blank_parameter_lost :
    let address := "https://scryfall.com/card/x?foo=&utm_source=api&bar=1"
    withoutTracking? address = some "https://scryfall.com/card/x?bar=1" ∧
      parameters? address = some [("foo".toList, []), ("utm_source".toList, "api".toList),
        ("bar".toList, "1".toList)] ∧
      (withoutTracking? address).bind parameters? ≠
        (parameters? address).map (List.filter fun pair => !isTracking pair) := by
  decide +kernel

end ChatWarden.Lookup.Card
