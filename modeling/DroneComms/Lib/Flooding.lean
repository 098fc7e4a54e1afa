import Mathlib.Data.Set.Insert
import Mathlib.Logic.Relation

/-!
# Flooding

Stations own ports, and every port is on a medium.  A station that comes to know a
message owes it to its ports.  What is sent at a port becomes pending at all the other
ports of the medium.  When the owner of such a port takes the message and did not know
it, it owes it to its other ports.

The state is that of one message.  A step is bounded from both sides where several
tasks of a station may owe the same port, or several copies may be pending at it.

Every port of a station that knows the message is owed or on a medium that is covered:
each port of it belongs to a station that knows the message, or has it pending
(`Covering`).  When nothing is owed or pending any more, the stations that know it are
those that are linked to an origin (`Covering.knows_iff`).
-/

namespace DroneComms.Flooding

universe u v w

/-- Who owns a port, and the medium it is on. -/
structure Wiring (ι : Type u) (π : Type v) (κ : Type w) where
  owner : π → ι
  medium : π → κ

namespace Wiring

variable {ι : Type u} {π : Type v} {κ : Type w}

/-- Two stations share a medium. -/
def Linked (net : Wiring ι π κ) (i j : ι) : Prop :=
  ∃ p q, net.owner p = i ∧ net.owner q = j ∧ net.medium p = net.medium q

/-- The other ports of a medium. -/
def others (net : Wiring ι π κ) (p : π) : Set π := {q | q ≠ p ∧ net.medium q = net.medium p}

end Wiring

/-- Where a message is. -/
@[ext]
structure State (ι : Type u) (π : Type v) where
  /-- The stations it was put in at. -/
  origins : Set ι
  knows : Set ι
  owes : Set π
  pending : Set π

variable {ι : Type u} {π : Type v} {κ : Type w} {net : Wiring ι π κ} {s t : State ι π}

/-- What can happen to a message. -/
inductive Step (net : Wiring ι π κ) (s t : State ι π) : Prop where
  | originate (i : ι) (origins : t.origins = insert i s.origins)
      (knows : t.knows = insert i s.knows) (owes : t.owes = s.owes ∪ {p | net.owner p = i})
      (pending : t.pending = s.pending)
  | send (p : π) (owed : p ∈ s.owes) (origins : t.origins = s.origins)
      (knows : t.knows = s.knows) (kept : ∀ q ∈ s.owes, q ≠ p → q ∈ t.owes)
      (owes : t.owes ⊆ s.owes) (pending : t.pending = s.pending ∪ net.others p)
  | receive (p : π) (heard : p ∈ s.pending) (origins : t.origins = s.origins)
      (knows : t.knows = insert (net.owner p) s.knows) (kept : s.owes ⊆ t.owes)
      (owes : t.owes ⊆ s.owes ∪ {q | net.owner q = net.owner p})
      (passed : net.owner p ∉ s.knows → ∀ q, net.owner q = net.owner p → q ≠ p → q ∈ t.owes)
      (left : ∀ q ∈ s.pending, q ≠ p → q ∈ t.pending) (pending : t.pending ⊆ s.pending)

/-! ## Covered media -/

/-- Every port of the medium has the message, or its owner knows it. -/
def Covered (net : Wiring ι π κ) (s : State ι π) (c : κ) : Prop :=
  ∀ q, net.medium q = c → net.owner q ∈ s.knows ∨ q ∈ s.pending

/-- A medium stays covered if a port only loses what its owner knows. -/
theorem Covered.mono {c : κ} (h : Covered net s c) (hknows : s.knows ⊆ t.knows)
    (hpending : ∀ q ∈ s.pending, net.owner q ∈ t.knows ∨ q ∈ t.pending) : Covered net t c := by
  intro q hq
  rcases h q hq with hknown | hheard
  · exact .inl (hknows hknown)
  · exact hpending q hheard

/-- A message is on its way to everyone who is linked to an origin, and to no one else. -/
structure Covering (net : Wiring ι π κ) (s : State ι π) : Prop where
  origins : s.origins ⊆ s.knows
  linked : ∀ j ∈ s.knows, ∃ i ∈ s.origins, Relation.ReflTransGen net.Linked i j
  owed : ∀ p ∈ s.owes, net.owner p ∈ s.knows
  heard : ∀ p ∈ s.pending, ∃ q, net.medium q = net.medium p ∧ net.owner q ∈ s.knows
  pending : ∀ p ∈ s.pending, Covered net s (net.medium p)
  known : ∀ p, net.owner p ∈ s.knows → p ∈ s.owes ∨ Covered net s (net.medium p)

/-! ## What a step keeps -/

/-- A station has put the message in. -/
theorem Covering.originate (h : Covering net s) {i : ι} (horigins : t.origins = insert i s.origins)
    (hknows : t.knows = insert i s.knows) (howes : t.owes = s.owes ∪ {p | net.owner p = i})
    (hpending : t.pending = s.pending) : Covering net t := by
  have hgrows : s.knows ⊆ t.knows := hknows ▸ Set.subset_insert i s.knows
  have hcovered : ∀ {c}, Covered net s c → Covered net t c := fun hc ↦
    hc.mono hgrows fun q hq ↦ .inr (hpending ▸ hq)
  constructor
  · rw [horigins, hknows]
    exact Set.insert_subset_insert h.origins
  · intro j hj
    rw [hknows] at hj
    rw [horigins]
    rcases hj with rfl | hj
    · exact ⟨j, Set.mem_insert j _, .refl⟩
    · obtain ⟨i', hi', hlinked⟩ := h.linked j hj
      exact ⟨i', Set.mem_insert_of_mem i hi', hlinked⟩
  · intro p hp
    rw [howes] at hp
    rcases hp with hp | hp
    · exact hgrows (h.owed p hp)
    · rw [hknows]
      exact .inl hp
  · intro p hp
    rw [hpending] at hp
    obtain ⟨q, hq, hknown⟩ := h.heard p hp
    exact ⟨q, hq, hgrows hknown⟩
  · intro p hp
    rw [hpending] at hp
    exact hcovered (h.pending p hp)
  · intro p hp
    rw [hknows] at hp
    rw [howes]
    rcases hp with hp | hp
    · exact .inl (.inr hp)
    · rcases h.known p hp with howed | hc
      · exact .inl (.inl howed)
      · exact .inr (hcovered hc)

/-- The message has been sent at a port. -/
theorem Covering.send (h : Covering net s) {p : π} (howed : p ∈ s.owes)
    (horigins : t.origins = s.origins) (hknows : t.knows = s.knows)
    (hkept : ∀ q ∈ s.owes, q ≠ p → q ∈ t.owes) (howes : t.owes ⊆ s.owes)
    (hpending : t.pending = s.pending ∪ net.others p) : Covering net t := by
  have hcovered : ∀ {c}, Covered net s c → Covered net t c := fun hc ↦
    hc.mono hknows.ge fun q hq ↦ .inr (hpending ▸ .inl hq)
  have hsent : Covered net t (net.medium p) := by
    intro q hq
    by_cases hqp : q = p
    · rw [hqp, hknows]
      exact .inl (h.owed p howed)
    · rw [hpending]
      exact .inr (.inr ⟨hqp, hq⟩)
  constructor
  · rw [horigins, hknows]
    exact h.origins
  · rw [horigins, hknows]
    exact h.linked
  · intro q hq
    rw [hknows]
    exact h.owed q (howes hq)
  · intro q hq
    rw [hknows]
    rw [hpending] at hq
    rcases hq with hq | ⟨-, hq⟩
    · exact h.heard q hq
    · exact ⟨p, hq.symm, h.owed p howed⟩
  · intro q hq
    rw [hpending] at hq
    rcases hq with hq | ⟨-, hq⟩
    · exact hcovered (h.pending q hq)
    · rw [hq]
      exact hsent
  · intro q hq
    rw [hknows] at hq
    by_cases hqp : q = p
    · rw [hqp]
      exact .inr hsent
    · rcases h.known q hq with hq' | hc
      · exact .inl (hkept q hq' hqp)
      · exact .inr (hcovered hc)

/-- The owner of a port has taken the message. -/
theorem Covering.receive (h : Covering net s) {p : π} (hheard : p ∈ s.pending)
    (horigins : t.origins = s.origins) (hknows : t.knows = insert (net.owner p) s.knows)
    (hkept : s.owes ⊆ t.owes) (howes : t.owes ⊆ s.owes ∪ {q | net.owner q = net.owner p})
    (hpassed : net.owner p ∉ s.knows → ∀ q, net.owner q = net.owner p → q ≠ p → q ∈ t.owes)
    (hleft : ∀ q ∈ s.pending, q ≠ p → q ∈ t.pending) (hpending : t.pending ⊆ s.pending) :
    Covering net t := by
  have hgrows : s.knows ⊆ t.knows := hknows ▸ Set.subset_insert _ s.knows
  have htaken : net.owner p ∈ t.knows := hknows ▸ Set.mem_insert _ s.knows
  have hcovered : ∀ {c}, Covered net s c → Covered net t c := by
    intro c hc
    refine hc.mono hgrows fun q hq ↦ ?_
    by_cases hqp : q = p
    · rw [hqp]
      exact .inl htaken
    · exact .inr (hleft q hq hqp)
  constructor
  · rw [horigins]
    exact h.origins.trans hgrows
  · intro j hj
    rw [hknows] at hj
    rw [horigins]
    rcases hj with rfl | hj
    · obtain ⟨q, hq, hknown⟩ := h.heard p hheard
      obtain ⟨i, hi, hlinked⟩ := h.linked _ hknown
      exact ⟨i, hi, hlinked.tail ⟨q, p, rfl, rfl, hq⟩⟩
    · exact h.linked j hj
  · intro q hq
    rcases howes hq with hq | hq
    · exact hgrows (h.owed q hq)
    · have howner : net.owner q = net.owner p := hq
      rw [howner]
      exact htaken
  · intro q hq
    obtain ⟨q', hq', hknown⟩ := h.heard q (hpending hq)
    exact ⟨q', hq', hgrows hknown⟩
  · exact fun q hq ↦ hcovered (h.pending q (hpending hq))
  · intro q hq
    by_cases hold : net.owner q ∈ s.knows
    · rcases h.known q hold with hq' | hc
      · exact .inl (hkept hq')
      · exact .inr (hcovered hc)
    · -- the owner is the one that has just come to know the message
      rw [hknows] at hq
      have howner : net.owner q = net.owner p := hq.resolve_right hold
      by_cases hqp : q = p
      · rw [hqp]
        exact .inr (hcovered (h.pending p hheard))
      · exact .inl (hpassed (howner ▸ hold) q howner hqp)

theorem Covering.step (h : Covering net s) (hstep : Step net s t) : Covering net t := by
  cases hstep with
  | originate i horigins hknows howes hpending =>
      exact h.originate horigins hknows howes hpending
  | send p howed horigins hknows hkept howes hpending =>
      exact h.send howed horigins hknows hkept howes hpending
  | receive p hheard horigins hknows hkept howes hpassed hleft hpending =>
      exact h.receive hheard horigins hknows hkept howes hpassed hleft hpending

/-- Before anyone has put the message in. -/
theorem Covering.start (net : Wiring ι π κ) : Covering net ⟨∅, ∅, ∅, ∅⟩ where
  origins := subset_rfl
  linked _ h := h.elim
  owed _ h := h.elim
  heard _ h := h.elim
  pending _ h := h.elim
  known _ h := h.elim

/-! ## The end of a flood -/

/-- **Flooding.**  When nothing is owed or pending any more, the message is known to those who
are linked to an origin. -/
theorem Covering.knows_iff (h : Covering net s) (howes : s.owes = ∅) (hpending : s.pending = ∅)
    {j : ι} : j ∈ s.knows ↔ ∃ i ∈ s.origins, Relation.ReflTransGen net.Linked i j := by
  refine ⟨h.linked j, ?_⟩
  rintro ⟨i, hi, hlinked⟩
  induction hlinked with
  | refl => exact h.origins hi
  | tail _ hlast ih =>
      obtain ⟨p, q, rfl, rfl, hmedium⟩ := hlast
      rcases h.known p ih with howed | hcovered
      · rw [howes] at howed
        exact howed.elim
      · rcases hcovered q hmedium.symm with hknown | hheard
        · exact hknown
        · rw [hpending] at hheard
          exact hheard.elim

end DroneComms.Flooding
