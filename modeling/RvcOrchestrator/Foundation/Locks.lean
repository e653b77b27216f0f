import Mathlib.Data.List.Nodup

/-! # Locks of transactions

A transaction is opened, takes locks on resources and keeps them until it is closed. No
resource is locked by two transactions at a time.
-/

namespace RvcOrchestrator.Foundation

structure Locks (Transaction Resource : Type) where
  active : List Transaction
  held : List (Resource × Transaction)
  exclusive : (held.map Prod.fst).Nodup
  ofActive : ∀ entry ∈ held, entry.2 ∈ active

namespace Locks

variable {Transaction Resource : Type}

def empty : Locks Transaction Resource where
  active := []
  held := []
  exclusive := List.nodup_nil
  ofActive _ member := nomatch member

def Holds (locks : Locks Transaction Resource) (transaction : Transaction)
    (resource : Resource) : Prop :=
  (resource, transaction) ∈ locks.held

def Free (locks : Locks Transaction Resource) (transaction : Transaction)
    (resource : Resource) : Prop :=
  ∀ other, locks.Holds other resource → other = transaction

variable [DecidableEq Transaction] [DecidableEq Resource]

instance (locks : Locks Transaction Resource) (transaction : Transaction) (resource : Resource) :
    Decidable (locks.Holds transaction resource) :=
  inferInstanceAs (Decidable (_ ∈ locks.held))

def start (locks : Locks Transaction Resource) (transaction : Transaction) :
    Locks Transaction Resource where
  active := transaction :: locks.active
  held := locks.held
  exclusive := locks.exclusive
  ofActive entry member := List.mem_cons_of_mem _ (locks.ofActive entry member)

/-- `none` if another transaction holds the resource. -/
def acquire (locks : Locks Transaction Resource) (transaction : Transaction)
    (resource : Resource) : Option (Locks Transaction Resource) :=
  if locks.Holds transaction resource then some locks
  else if taken : resource ∉ locks.held.map Prod.fst ∧ transaction ∈ locks.active then
    some
      { active := locks.active
        held := (resource, transaction) :: locks.held
        exclusive := List.nodup_cons.mpr ⟨taken.1, locks.exclusive⟩
        ofActive := by
          intro entry member
          rcases List.mem_cons.mp member with new | earlier
          · rw [new]
            exact taken.2
          · exact locks.ofActive entry earlier }
  else none

def acquireAll (locks : Locks Transaction Resource) (transaction : Transaction) :
    List Resource → Option (Locks Transaction Resource)
  | [] => some locks
  | resource :: resources =>
      match locks.acquire transaction resource with
      | none => none
      | some locks => locks.acquireAll transaction resources

/-- The end of a transaction, by commit or rollback. -/
def close (locks : Locks Transaction Resource) (transaction : Transaction) :
    Locks Transaction Resource where
  active := locks.active.filter (· ≠ transaction)
  held := locks.held.filter (·.2 ≠ transaction)
  exclusive := locks.exclusive.sublist (List.filter_sublist.map Prod.fst)
  ofActive entry member := by
    rw [List.mem_filter] at member ⊢
    exact ⟨locks.ofActive entry member.1, member.2⟩

/-! ## Who holds what -/

variable {locks later : Locks Transaction Resource} {transaction other : Transaction}
  {resource : Resource} {resources : List Resource}

omit [DecidableEq Transaction] [DecidableEq Resource] in

omit [DecidableEq Transaction] [DecidableEq Resource] in
theorem Holds.unique (first : locks.Holds transaction resource)
    (second : locks.Holds other resource) : transaction = other := by
  have same := List.inj_on_of_nodup_map locks.exclusive first second rfl
  exact congrArg Prod.snd same

omit [DecidableEq Transaction] [DecidableEq Resource] in

omit [DecidableEq Transaction] [DecidableEq Resource] in
@[simp] theorem start_holds : (locks.start transaction).Holds other resource ↔
    locks.Holds other resource := Iff.rfl

omit [DecidableEq Transaction] [DecidableEq Resource] in
@[simp] theorem mem_active_start : other ∈ (locks.start transaction).active ↔
    other = transaction ∨ other ∈ locks.active := List.mem_cons

omit [DecidableEq Resource] in
@[simp] theorem close_holds : (locks.close transaction).Holds other resource ↔
    locks.Holds other resource ∧ other ≠ transaction := by
  simp [Holds, close]

omit [DecidableEq Resource] in
@[simp] theorem mem_active_close : other ∈ (locks.close transaction).active ↔
    other ∈ locks.active ∧ other ≠ transaction := by
  simp [close]

theorem acquire_active (acquired : locks.acquire transaction resource = some later) :
    later.active = locks.active := by
  unfold acquire at acquired
  split at acquired
  · cases acquired
    rfl
  · split at acquired
    · cases acquired
      rfl
    · cases acquired

theorem acquire_holds (acquired : locks.acquire transaction resource = some later)
    {holder : Transaction} {any : Resource} :
    later.Holds holder any ↔ locks.Holds holder any ∨ holder = transaction ∧ any = resource := by
  unfold acquire at acquired
  split at acquired
  · next already =>
      cases acquired
      constructor
      · exact .inl
      · rintro (before | ⟨rfl, rfl⟩)
        · exact before
        · exact already
  · split at acquired
    · cases acquired
      simp only [Holds, List.mem_cons, Prod.mk.injEq]
      constructor
      · rintro (⟨rfl, rfl⟩ | before)
        · exact .inr ⟨rfl, rfl⟩
        · exact .inl before
      · rintro (before | ⟨rfl, rfl⟩)
        · exact .inr before
        · exact .inl ⟨rfl, rfl⟩
    · cases acquired

theorem acquireAll_active (acquired : locks.acquireAll transaction resources = some later) :
    later.active = locks.active := by
  induction resources generalizing locks with
  | nil =>
      cases acquired
      rfl
  | cons resource resources induction =>
      simp only [acquireAll] at acquired
      split at acquired
      · cases acquired
      · next first taken => rw [induction acquired, acquire_active taken]

theorem acquireAll_holds (acquired : locks.acquireAll transaction resources = some later)
    {holder : Transaction} {any : Resource} :
    later.Holds holder any ↔ locks.Holds holder any ∨ holder = transaction ∧ any ∈ resources := by
  induction resources generalizing locks with
  | nil =>
      cases acquired
      simp
  | cons resource resources induction =>
      simp only [acquireAll] at acquired
      split at acquired
      · cases acquired
      · next first taken =>
          rw [induction acquired, acquire_holds taken, List.mem_cons]
          tauto

/-- What a transaction has taken, it took from nobody. -/
theorem acquireAll_takes (acquired : locks.acquireAll transaction resources = some later)
    (member : resource ∈ resources) : later.Holds transaction resource :=
  (acquireAll_holds acquired).mpr (.inr ⟨rfl, member⟩)

theorem acquireAll_keeps (acquired : locks.acquireAll transaction resources = some later)
    (holds : locks.Holds other resource) : later.Holds other resource :=
  (acquireAll_holds acquired).mpr (.inl holds)

theorem acquire_of_free (opened : transaction ∈ locks.active)
    (free : locks.Free transaction resource) :
    ∃ later, locks.acquire transaction resource = some later := by
  unfold acquire
  split
  · exact ⟨_, rfl⟩
  · next notHeld =>
      have untaken : resource ∉ locks.held.map Prod.fst := by
        intro member
        rcases List.mem_map.mp member with ⟨⟨same, holder⟩, held, rfl⟩
        have own := free holder held
        exact notHeld (own ▸ held)
      rw [dif_pos ⟨untaken, opened⟩]
      exact ⟨_, rfl⟩

theorem acquireAll_of_free (opened : transaction ∈ locks.active)
    (free : ∀ resource ∈ resources, locks.Free transaction resource) :
    ∃ later, locks.acquireAll transaction resources = some later := by
  induction resources generalizing locks with
  | nil => exact ⟨locks, rfl⟩
  | cons resource resources induction =>
      rcases acquire_of_free opened (free resource List.mem_cons_self) with ⟨first, taken⟩
      simp only [acquireAll, taken]
      apply induction
      · rw [acquire_active taken]
        exact opened
      · intro any member holder holds
        rcases (acquire_holds taken).mp holds with before | ⟨same, -⟩
        · exact free any (List.mem_cons_of_mem _ member) holder before
        · exact same

end Locks

end RvcOrchestrator.Foundation
