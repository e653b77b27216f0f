import Mathlib.Data.List.Nodup
import Mathlib.Logic.Relation

/-! # Replaying a store

Items are stored before they are sent. A replay lists the store and sends the listing one by one;
an item leaves the store when its receipt is confirmed, and a replay may stop at any item, which is
then sent again. Whether items arrive in order is up to the listings.
-/

namespace RvcOrchestrator.Foundation

variable {Item : Type}

/-- The store, what the replay has yet to send, and what was received, the first first. -/
structure Redelivery (Item : Type) where
  stored : List Item
  listing : List Item
  received : List Item

namespace Redelivery

/-- `May first second`: the second item may be received after the first. -/
structure Ordered (May : Item → Item → Prop) (replay : Redelivery Item) : Prop where
  received : replay.received.Pairwise May
  ahead : ∀ item ∈ replay.received, ∀ other ∈ replay.stored, May item other
  nodup : replay.listing.Nodup
  listed : replay.listing.Pairwise May
  stored : ∀ item ∈ replay.listing, item ∈ replay.stored
  /-- What is stored beside the listing came after it. -/
  beside : ∀ item ∈ replay.listing, ∀ other ∈ replay.stored,
    other ∈ replay.listing ∨ May item other

theorem Ordered.empty (May : Item → Item → Prop) (stored : List Item) :
    Ordered May ⟨stored, [], []⟩ where
  received := .nil
  ahead := by
    intro item member
    cases member
  nodup := .nil
  listed := .nil
  stored := by
    intro item member
    cases member
  beside := by
    intro item member
    cases member

variable [DecidableEq Item]

inductive Step (May : Item → Item → Prop) (replay : Redelivery Item) : Redelivery Item → Prop
  | store (item : Item) (afterReceived : ∀ other ∈ replay.received, May other item)
      (afterStored : ∀ other ∈ replay.stored, May other item) :
      Step May replay { replay with stored := replay.stored ++ [item] }
  | list (items : List Item) (nodup : items.Nodup) (stored : ∀ item ∈ items, item ∈ replay.stored)
      (whole : ∀ item ∈ replay.stored, item ∈ items) (ordered : items.Pairwise May) :
      Step May replay { replay with listing := items }
  | receive (item : Item) (rest : List Item) (first : replay.listing = item :: rest) :
      Step May replay { replay with received := replay.received ++ [item] }
  | confirm (item : Item) (rest : List Item) (first : replay.listing = item :: rest) :
      Step May replay
        { replay with stored := replay.stored.filter fun other => other ≠ item, listing := rest }
  | stop : Step May replay { replay with listing := [] }

variable {May : Item → Item → Prop} {replay after : Redelivery Item}

/-- One step keeps the order, if an item may be received twice in a row. -/
theorem Ordered.step (again : ∀ item, May item item) (ordered : Ordered May replay)
    (step : Step May replay after) : Ordered May after := by
  cases step with
  | store item afterReceived afterStored =>
      constructor
      · exact ordered.received
      · intro received member other stored
        rcases List.mem_append.mp stored with old | new
        · exact ordered.ahead received member other old
        · rw [List.mem_singleton.mp new]
          exact afterReceived received member
      · exact ordered.nodup
      · exact ordered.listed
      · intro listed member
        exact List.mem_append_left _ (ordered.stored listed member)
      · intro listed member other stored
        rcases List.mem_append.mp stored with old | new
        · exact ordered.beside listed member other old
        · rw [List.mem_singleton.mp new]
          exact .inr (afterStored listed (ordered.stored listed member))
  | list items nodup stored whole listed =>
      constructor
      · exact ordered.received
      · exact ordered.ahead
      · exact nodup
      · exact listed
      · exact stored
      · intro item member other otherStored
        exact .inl (whole other otherStored)
  | receive item rest first =>
      have member : item ∈ replay.listing := by
        rw [first]
        exact List.mem_cons_self
      have listed := ordered.listed
      rw [first, List.pairwise_cons] at listed
      constructor
      · rw [List.pairwise_append]
        apply And.intro ordered.received
        apply And.intro (List.pairwise_singleton May item)
        intro earlier received other same
        rw [List.mem_singleton.mp same]
        exact ordered.ahead earlier received item (ordered.stored item member)
      · intro received among other stored
        rcases List.mem_append.mp among with old | new
        · exact ordered.ahead received old other stored
        · rw [List.mem_singleton.mp new]
          rcases ordered.beside item member other stored with listing | later
          · rw [first] at listing
            rcases List.mem_cons.mp listing with same | behind
            · rw [same]
              exact again item
            · exact listed.1 other behind
          · exact later
      · exact ordered.nodup
      · exact ordered.listed
      · exact ordered.stored
      · exact ordered.beside
  | confirm item rest first =>
      have nodup := ordered.nodup
      have listed := ordered.listed
      rw [first] at nodup listed
      constructor
      · exact ordered.received
      · intro received among other stored
        exact ordered.ahead received among other (List.mem_filter.mp stored).1
      · exact (List.nodup_cons.mp nodup).2
      · exact (List.pairwise_cons.mp listed).2
      · intro other member
        have stored := ordered.stored other (by rw [first]; exact List.mem_cons_of_mem item member)
        apply List.mem_filter.mpr
        apply And.intro stored
        apply decide_eq_true
        intro same
        rw [same] at member
        exact (List.nodup_cons.mp nodup).1 member
      · intro other member stored among
        rcases List.mem_filter.mp among with ⟨before, different⟩
        have notItem : stored ≠ item := of_decide_eq_true different
        rcases ordered.beside other (by rw [first]; exact List.mem_cons_of_mem item member)
          stored before with listing | later
        · rw [first] at listing
          exact .inl ((List.mem_cons.mp listing).resolve_left notItem)
        · exact .inr later
  | stop =>
      constructor
      · exact ordered.received
      · exact ordered.ahead
      · exact .nil
      · exact .nil
      · intro item member
        cases member
      · intro item member
        cases member

end Redelivery

end RvcOrchestrator.Foundation
