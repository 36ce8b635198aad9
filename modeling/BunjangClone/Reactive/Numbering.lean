import BunjangClone.Reactive.Pending

/-!
# Requests by number

An answer names a place among the requests in flight, and no request says which one it is. Told
apart by number, in the order they are made, requests can be followed without a look at what
they ask for. What they do ask for is then a function of the number, if it is one at all.
-/

namespace Reactive

/-- What passes between a client and its server. -/
inductive Traffic where
  | asked
  | answered (index : Nat) (granted : Bool)
deriving DecidableEq, Repr

/-- The requests in flight, and those granted in the order they were, by number. -/
structure Ledger where
  next : Nat := 0
  inFlight : List Nat := []
  granted : List Nat := []
deriving DecidableEq, Repr

namespace Ledger

def note (ledger : Ledger) : Traffic → Ledger
  | .asked =>
      { ledger with next := ledger.next + 1, inFlight := ledger.inFlight ++ [ledger.next] }
  | .answered index granted =>
      match takeAt ledger.inFlight index with
      | some (number, rest) =>
          { ledger with
            inFlight := rest
            granted := ledger.granted ++ if granted then [number] else [] }
      | none => ledger

def ofTraffic (traffic : List Traffic) : Ledger := traffic.foldl note {}

@[simp] theorem ofTraffic_nil : ofTraffic [] = {} := rfl

theorem ofTraffic_append (traffic more : List Traffic) :
    ofTraffic (traffic ++ more) = more.foldl note (ofTraffic traffic) := by
  rw [ofTraffic, List.foldl_append, ofTraffic]

/-- Request number `n` asks for `content n`: those in flight and those granted do. -/
structure Accounts {α : Type*} (ledger : Ledger) (content : Nat → α)
    (requests granted : List α) : Prop where
  requests : requests = ledger.inFlight.map content
  granted : granted = ledger.granted.map content

variable {α : Type*} {ledger : Ledger} {content : Nat → α} {requests rest granted : List α}
variable {index : Nat} {a : α}

theorem accounts_empty (content : Nat → α) : ({} : Ledger).Accounts content [] [] := ⟨rfl, rfl⟩

theorem Accounts.asked (h : ledger.Accounts content requests granted)
    (ha : a = content ledger.next) :
    (ledger.note .asked).Accounts content (requests ++ [a]) granted := by
  refine ⟨?_, h.granted⟩
  rw [h.requests, ha, note, List.map_append, List.map_singleton]

/-- The request that is answered is the one in its place. -/
theorem Accounts.answered (h : ledger.Accounts content requests granted) (outcome : Bool)
    (htake : takeAt requests index = some (a, rest)) :
    (ledger.note (.answered index outcome)).Accounts content rest
      (granted ++ if outcome then [a] else []) := by
  obtain ⟨hindex, rfl⟩ := takeAt_eq_some_iff.mp htake
  rw [h.requests, List.getElem?_map, Option.map_eq_some_iff] at hindex
  obtain ⟨number, hnumber, rfl⟩ := hindex
  have hnoted : takeAt ledger.inFlight index = some (number, ledger.inFlight.eraseIdx index) :=
    takeAt_eq_some_iff.mpr ⟨hnumber, rfl⟩
  rw [note, hnoted]
  refine ⟨?_, ?_⟩
  · rw [h.requests, List.eraseIdx_map]
  · rw [h.granted]
    cases outcome <;> simp

end Ledger
end Reactive
