import Mathlib.Data.List.Destutter
import Mathlib.Order.Basic
import Mathlib.Tactic

/-!
# Debouncing

A debouncer confirms one of a linear order of states.  A raw state above the
confirmed one is confirmed at once; a raw state below it is only a candidate, and
is confirmed when it has been observed again after long enough, and nothing else
in between.

What "long enough" means is a parameter (`due since now`).  Histories are lists
of observations with the newest first, of any type that has a time and a raw
state.
-/

namespace DroneComms.Debounce

universe u v w

variable {α : Type u} [LinearOrder α] {T : Type v} {ι : Type w}

/-- The confirmed state, and the candidate with the time it was first observed at. -/
structure Debouncer (α : Type u) (T : Type v) where
  state : α
  pending : Option α := none
  since : T
deriving DecidableEq, Repr

variable (due : T → T → Bool)

/-- Observe a raw state. -/
def observe (d : Debouncer α T) (raw : α) (now : T) : Debouncer α T :=
  if raw = d.state then { d with pending := none }
  else if d.state < raw then { d with state := raw, pending := none }
  else if d.pending ≠ some raw then { d with pending := some raw, since := now }
  else if due d.since now then { d with state := raw, pending := none }
  else d

variable {due}

/-! ## One observation -/

theorem observe_same {d : Debouncer α T} {now : T} :
    observe due d d.state now = { d with pending := none } := if_pos rfl

theorem observe_above {d : Debouncer α T} {raw : α} {now : T} (h : d.state < raw) :
    observe due d raw now = { d with state := raw, pending := none } := by
  rw [observe, if_neg h.ne', if_pos h]

theorem observe_below {d : Debouncer α T} {raw : α} {now : T} (h : raw < d.state) :
    observe due d raw now =
      if d.pending ≠ some raw then { d with pending := some raw, since := now }
      else if due d.since now then { d with state := raw, pending := none } else d := by
  rw [observe, if_neg h.ne, if_neg h.not_gt]

/-- Everything an observation can do: forget the candidate, confirm a worse state, take a
candidate, confirm the candidate, or wait. -/
theorem observe_cases (d : Debouncer α T) (raw : α) (now : T) :
    raw = d.state ∧ observe due d raw now = { d with pending := none } ∨
    d.state < raw ∧ observe due d raw now = { d with state := raw, pending := none } ∨
    raw < d.state ∧ d.pending ≠ some raw ∧
      observe due d raw now = { d with pending := some raw, since := now } ∨
    raw < d.state ∧ d.pending = some raw ∧ due d.since now = true ∧
      observe due d raw now = { d with state := raw, pending := none } ∨
    raw < d.state ∧ d.pending = some raw ∧ ¬ due d.since now = true ∧
      observe due d raw now = d := by
  rcases lt_trichotomy raw d.state with hlt | rfl | hgt
  · rw [observe_below hlt]
    by_cases hpending : d.pending = some raw
    · by_cases hdue : due d.since now = true
      · refine .inr (.inr (.inr (.inl ⟨hlt, hpending, hdue, ?_⟩)))
        rw [if_neg (not_not.mpr hpending), if_pos hdue]
      · refine .inr (.inr (.inr (.inr ⟨hlt, hpending, hdue, ?_⟩)))
        rw [if_neg (not_not.mpr hpending), if_neg hdue]
    · exact .inr (.inr (.inl ⟨hlt, hpending, if_pos hpending⟩))
  · exact .inl ⟨rfl, observe_same⟩
  · exact .inr (.inl ⟨hgt, observe_above hgt⟩)

/-- The confirmed state is never better than the raw one. -/
theorem le_observe (d : Debouncer α T) (raw : α) (now : T) :
    raw ≤ (observe due d raw now).state := by
  rcases observe_cases d raw now with ⟨rfl, h⟩ | ⟨-, h⟩ | ⟨hlt, -, h⟩ |
    ⟨-, -, -, h⟩ | ⟨hlt, -, -, h⟩ <;> rw [h]
  · exact hlt.le
  · exact hlt.le

/-- The confirmed state stays or becomes the raw one. -/
theorem observe_state (d : Debouncer α T) (raw : α) (now : T) :
    (observe due d raw now).state = d.state ∨ (observe due d raw now).state = raw := by
  rcases observe_cases d raw now with ⟨-, h⟩ | ⟨-, h⟩ | ⟨-, -, h⟩ |
    ⟨-, -, -, h⟩ | ⟨-, -, -, h⟩ <;> rw [h]
  · exact .inl rfl
  · exact .inr rfl
  · exact .inl rfl
  · exact .inr rfl
  · exact .inl rfl

/-- The confirmed state has improved only if the candidate was due. -/
theorem observe_lt_iff {d : Debouncer α T} {raw : α} {now : T} :
    (observe due d raw now).state < d.state ↔
      raw < d.state ∧ d.pending = some raw ∧ due d.since now = true := by
  rcases observe_cases d raw now with ⟨rfl, h⟩ | ⟨hgt, h⟩ | ⟨-, hne, h⟩ |
    ⟨hlt, hpending, hdue, h⟩ | ⟨-, -, hdue, h⟩ <;> rw [h]
  · exact iff_of_false (lt_irrefl _) fun h ↦ lt_irrefl _ h.1
  · exact iff_of_false hgt.not_gt fun h ↦ hgt.not_gt h.1
  · exact iff_of_false (lt_irrefl _) fun h ↦ hne h.2.1
  · exact iff_of_true hlt ⟨hlt, hpending, hdue⟩
  · exact iff_of_false (lt_irrefl _) fun h ↦ hdue h.2.2

/-! ## Histories -/

section

variable (due) (time : ι → T) (raw : ι → α)

/-- The debouncer after a history, the newest observation first. -/
def confirm (d : Debouncer α T) : List ι → Debouncer α T
  | [] => d
  | o :: h => observe due (confirm d h) (raw o) (time o)

/-- The raw state was `p` at the newest observation and at all of them back to one that is
long enough ago. -/
def HeldFor (p : α) (h : List ι) : Prop :=
  ∃ last streak first rest, h = last :: (streak ++ first :: rest) ∧ raw last = p ∧
    (∀ o ∈ streak, raw o = p) ∧ raw first = p ∧ due (time first) (time last) = true

end

variable {time : ι → T} {raw : ι → α} {d : Debouncer α T}

/-- A candidate has been observed since it was first observed, and nothing else. -/
theorem streak_of_pending (hd : d.pending = none) {h : List ι} {p : α}
    (hp : (confirm due time raw d h).pending = some p) :
    ∃ streak first rest, h = streak ++ first :: rest ∧ (∀ o ∈ streak, raw o = p) ∧
      raw first = p ∧ (confirm due time raw d h).since = time first := by
  induction h with
  | nil =>
      rw [confirm, hd] at hp
      cases hp
  | cons o h ih =>
      rw [confirm] at hp ⊢
      rcases observe_cases (confirm due time raw d h) (raw o) (time o) with
        ⟨-, heq⟩ | ⟨-, heq⟩ | ⟨-, -, heq⟩ | ⟨-, -, -, heq⟩ | ⟨-, hpending, -, heq⟩ <;>
        rw [heq] at hp ⊢
      · cases hp
      · cases hp
      · exact ⟨[], o, h, rfl, List.forall_mem_nil _, Option.some.inj hp, rfl⟩
      · cases hp
      · obtain ⟨streak, first, rest, rfl, hstreak, hfirst, hsince⟩ := ih hp
        rw [hpending] at hp
        refine ⟨o :: streak, first, rest, rfl, ?_, hfirst, hsince⟩
        exact List.forall_mem_cons.mpr ⟨Option.some.inj hp, hstreak⟩

theorem heldFor_of_pending (hd : d.pending = none) {o : ι} {h : List ι}
    (hp : (confirm due time raw d h).pending = some (raw o))
    (hdue : due (confirm due time raw d h).since (time o) = true) :
    HeldFor due time raw (raw o) (o :: h) := by
  obtain ⟨streak, first, rest, rfl, hstreak, hfirst, hsince⟩ := streak_of_pending hd hp
  exact ⟨o, streak, first, rest, rfl, rfl, hstreak, hfirst, hsince ▸ hdue⟩

/-- **Recovery is slow.**  A better state is confirmed only if it was held. -/
theorem heldFor_of_recovery (hd : d.pending = none) {o : ι} {h : List ι}
    (hlt : (confirm due time raw d (o :: h)).state < (confirm due time raw d h).state) :
    HeldFor due time raw (confirm due time raw d (o :: h)).state (o :: h) := by
  rw [confirm] at hlt ⊢
  obtain ⟨hraw, hpending, hdue⟩ := observe_lt_iff.mp hlt
  have hstate := (observe_state (confirm due time raw d h) (raw o)
    (time o)).resolve_left hlt.ne
  rw [hstate]
  exact heldFor_of_pending hd hpending hdue

/-- The best state is confirmed only behind observations of it, the first of which were
held before it was confirmed. -/
theorem entered_of_state_eq (hd : d.pending = none) {p : α} (hp : ∀ a, p ≤ a) (hne : d.state ≠ p)
    {h : List ι} (hstate : (confirm due time raw d h).state = p) :
    ∃ recent entry before, h = recent ++ entry :: before ∧ (∀ o ∈ recent, raw o = p) ∧
      (confirm due time raw d before).state ≠ p ∧ HeldFor due time raw p (entry :: before) := by
  induction h with
  | nil => exact absurd hstate hne
  | cons o h ih =>
      by_cases hbefore : (confirm due time raw d h).state = p
      · obtain ⟨recent, entry, before, rfl, hrecent, hentry⟩ := ih hbefore
        have hraw : raw o = p := le_antisymm (hstate ▸ le_observe _ _ _) (hp _)
        exact ⟨o :: recent, entry, before, rfl, List.forall_mem_cons.mpr ⟨hraw, hrecent⟩, hentry⟩
      · have hlt : (confirm due time raw d (o :: h)).state < (confirm due time raw d h).state :=
          hstate ▸ lt_of_le_of_ne (hp _) (Ne.symm hbefore)
        have hheld := heldFor_of_recovery hd hlt
        rw [hstate] at hheld
        exact ⟨[], o, h, rfl, List.forall_mem_nil _, hbefore, hheld⟩

/-! ## When a better state is confirmed -/

section

variable [LinearOrder T]

/-- The newest observation comes last. -/
def Ordered (time : ι → T) (h : List ι) : Prop := h.Pairwise fun newer older ↦ time older ≤ time newer

/-- A candidate is not younger than any observation of its streak. -/
theorem pending_of_streak (hd : d.pending = none) {streak rest : List ι} {first : ι} {p : α}
    (htime : Ordered time (streak ++ first :: rest)) (hstreak : ∀ o ∈ streak, raw o = p)
    (hfirst : raw first = p) (hp : p < (confirm due time raw d (streak ++ first :: rest)).state) :
    (confirm due time raw d (streak ++ first :: rest)).pending = some p ∧
      (confirm due time raw d (streak ++ first :: rest)).since ≤ time first := by
  induction streak with
  | nil =>
      rw [List.nil_append, confirm, hfirst] at hp ⊢
      rcases observe_cases (confirm due time raw d rest) p (time first) with
        ⟨hsame, heq⟩ | ⟨-, heq⟩ | ⟨-, -, heq⟩ | ⟨-, -, -, heq⟩ | ⟨-, hpending, -, heq⟩ <;>
        rw [heq] at hp ⊢
      · exact absurd hp (hsame ▸ lt_irrefl _)
      · exact absurd hp (lt_irrefl _)
      · exact ⟨rfl, le_rfl⟩
      · exact absurd hp (lt_irrefl _)
      · obtain ⟨streak, older, rest', rfl, -, -, hsince⟩ := streak_of_pending hd hpending
        refine ⟨hpending, hsince ▸ ?_⟩
        exact List.rel_of_pairwise_cons htime (List.mem_append_right _ List.mem_cons_self)
  | cons o streak ih =>
      obtain ⟨hraw, hrest⟩ := List.forall_mem_cons.mp hstreak
      rw [List.cons_append, confirm, hraw] at hp ⊢
      rcases observe_cases (confirm due time raw d (streak ++ first :: rest)) p
        (time o) with ⟨hsame, heq⟩ | ⟨-, heq⟩ | ⟨hlt, hne, -⟩ | ⟨-, -, -, heq⟩ |
          ⟨hlt, -, -, heq⟩
      · rw [heq] at hp
        exact absurd hp (hsame ▸ lt_irrefl _)
      · rw [heq] at hp
        exact absurd hp (lt_irrefl _)
      · exact absurd (ih htime.of_cons hrest hlt).1 hne
      · rw [heq] at hp
        exact absurd hp (lt_irrefl _)
      · rw [heq]
        exact ih htime.of_cons hrest hlt

/-- Below the confirmed state, the raw state is due exactly if it was held. -/
theorem heldFor_iff (hdue : ∀ a b c, a ≤ b → due b c = true → due a c = true)
    (hd : d.pending = none) {o : ι} {h : List ι} (htime : Ordered time (o :: h))
    (hlt : raw o < (confirm due time raw d h).state) :
    HeldFor due time raw (raw o) (o :: h) ↔
      (confirm due time raw d h).pending = some (raw o) ∧
        due (confirm due time raw d h).since (time o) = true := by
  constructor
  · rintro ⟨last, streak, first, rest, heq, -, hstreak, hfirst, hheld⟩
    cases heq
    obtain ⟨hpending, hsince⟩ := pending_of_streak hd htime.of_cons hstreak hfirst hlt
    exact ⟨hpending, hdue _ _ _ hsince hheld⟩
  · rintro ⟨hpending, hheld⟩
    exact heldFor_of_pending hd hpending hheld

/-- **Recovery.**  After a window of raw states up to `p`, the confirmed state is up to `p`
if and only if it was so before, or some raw state was held at an observation of the window. -/
theorem confirm_le_iff (hdue : ∀ a b c, a ≤ b → due b c = true → due a c = true)
    (hd : d.pending = none) {window before : List ι} {p : α}
    (htime : Ordered time (window ++ before)) (hwindow : ∀ o ∈ window, raw o ≤ p) :
    (confirm due time raw d (window ++ before)).state ≤ p ↔
      (confirm due time raw d before).state ≤ p ∨
        ∃ newer o older, window = newer ++ o :: older ∧
          HeldFor due time raw (raw o) (o :: (older ++ before)) := by
  induction window with
  | nil =>
      refine ⟨.inl, fun h ↦ h.resolve_right ?_⟩
      rintro ⟨newer, o, older, h, -⟩
      cases newer <;> cases h
  | cons o window ih =>
      obtain ⟨ho, hrest⟩ := List.forall_mem_cons.mp hwindow
      rw [List.cons_append] at htime ⊢
      have ih' := ih htime.of_cons hrest
      -- a held raw state of the window is one of the older ones, or the newest
      have hsplit : (∃ newer o' older, o :: window = newer ++ o' :: older ∧
          HeldFor due time raw (raw o') (o' :: (older ++ before))) ↔
          (∃ newer o' older, window = newer ++ o' :: older ∧
            HeldFor due time raw (raw o') (o' :: (older ++ before))) ∨
              HeldFor due time raw (raw o) (o :: (window ++ before)) := by
        constructor
        · rintro ⟨newer, o', older, heq, hheld⟩
          rcases List.cons_eq_append_iff.mp heq with ⟨-, hcons⟩ | ⟨newer', rfl, hwindow'⟩
          · cases hcons
            exact .inr hheld
          · exact .inl ⟨newer', o', older, hwindow', hheld⟩
        · rintro (⟨newer, o', older, heq, hheld⟩ | hheld)
          · exact ⟨o :: newer, o', older, by rw [heq]; rfl, hheld⟩
          · exact ⟨[], o, window, rfl, hheld⟩
      rw [hsplit, ← or_assoc, ← ih', confirm]
      rcases le_or_gt (confirm due time raw d (window ++ before)).state p with hle | hgt
      · refine iff_of_true ?_ (.inl hle)
        rcases observe_state (confirm due time raw d (window ++ before)) (raw o)
          (time o) with hstate | hstate <;> rw [hstate]
        · exact hle
        · exact ho
      · have hlt : raw o < (confirm due time raw d (window ++ before)).state :=
          lt_of_le_of_lt ho hgt
        rw [or_iff_right (not_le.mpr hgt), heldFor_iff hdue hd htime hlt]
        constructor
        · intro hle
          exact (observe_lt_iff.mp (lt_of_le_of_lt hle hgt)).2
        · rintro ⟨hpending, hheld⟩
          have hrecovers := observe_lt_iff.mpr ⟨hlt, hpending, hheld⟩
          rw [(observe_state _ _ _).resolve_left hrecovers.ne]
          exact ho

end

/-! ## Moves

Here observations are in the order they are made in. -/

/-- The states of a sequence that differ from the one before, behind a first state. -/
def changes (c : α) : List α → List α
  | [] => []
  | a :: as => if a = c then changes c as else a :: changes a as

theorem destutter_cons [DecidableRel ((· ≠ ·) : α → α → Prop)] (c : α) (as : List α) :
    (c :: as).destutter (· ≠ ·) = c :: changes c as := by
  rw [List.destutter_cons']
  induction as generalizing c with
  | nil => rfl
  | cons a as ih =>
      rw [List.destutter'_cons, changes]
      by_cases h : a = c
      · rw [if_neg (not_not.mpr h.symm), if_pos h, ih]
      · rw [if_pos (Ne.symm h), if_neg h, ih]

section

variable (due)

/-- Observing the raw state moves the confirmed one: it is worse, or a candidate whose time
has come. -/
def Moves (d : Debouncer α T) (raw : α) (now : T) : Prop :=
  d.state < raw ∨ raw < d.state ∧ d.pending = some raw ∧ due d.since now = true

instance (d : Debouncer α T) (raw : α) (now : T) [DecidableEq α] : Decidable (Moves due d raw now) :=
  inferInstanceAs (Decidable (_ ∨ _))

/-- The debouncer after observations. -/
def settle (d : Debouncer α T) (os : List (α × T)) : Debouncer α T :=
  os.foldl (fun d o ↦ observe due d o.1 o.2) d

/-- The confirmed states after each observation. -/
def states (d : Debouncer α T) : List (α × T) → List α
  | [] => []
  | o :: os => (observe due d o.1 o.2).state :: states (observe due d o.1 o.2) os

/-- The raw states that move the confirmed one. -/
def moves (d : Debouncer α T) : List (α × T) → List α
  | [] => []
  | o :: os =>
      (if Moves due d o.1 o.2 then [o.1] else []) ++ moves (observe due d o.1 o.2) os

end

theorem Moves.ne {raw : α} {now : T} (h : Moves due d raw now) : raw ≠ d.state :=
  h.elim ne_of_gt fun h ↦ ne_of_lt h.1

theorem observe_moves (d : Debouncer α T) (raw : α) (now : T) :
    (observe due d raw now).state = if Moves due d raw now then raw else d.state := by
  rcases observe_cases d raw now with ⟨hsame, h⟩ | ⟨hgt, h⟩ | ⟨hlt, hne, h⟩ |
    ⟨hlt, hpending, hdue, h⟩ | ⟨hlt, -, hdue, h⟩ <;> rw [h]
  · rw [if_neg fun hmoves : Moves due d raw now ↦ hmoves.ne hsame]
  · rw [if_pos (.inl hgt)]
  · rw [if_neg]
    rintro (hgt | ⟨-, hpending, -⟩)
    · exact hlt.not_gt hgt
    · exact hne hpending
  · rw [if_pos (.inr ⟨hlt, hpending, hdue⟩)]
  · rw [if_neg]
    rintro (hgt | ⟨-, -, hdue'⟩)
    · exact hlt.not_gt hgt
    · exact hdue hdue'

theorem settle_append (d : Debouncer α T) (os os' : List (α × T)) :
    settle due d (os ++ os') = settle due (settle due d os) os' := List.foldl_append

theorem states_append (d : Debouncer α T) (os os' : List (α × T)) :
    states due d (os ++ os') = states due d os ++ states due (settle due d os) os' := by
  induction os generalizing d with
  | nil => rfl
  | cons o os ih => exact congrArg _ (ih _)

/-- The confirmed states change by the moves. -/
theorem changes_states (d : Debouncer α T) (os : List (α × T)) :
    changes d.state (states due d os) = moves due d os := by
  induction os generalizing d with
  | nil => rfl
  | cons o os ih =>
      rw [states, changes, moves, ← ih, observe_moves]
      by_cases h : Moves due d o.1 o.2
      · rw [if_pos h, if_pos h, if_neg h.ne, List.singleton_append]
      · rw [if_neg h, if_neg h, if_pos rfl, List.nil_append]

/-! ## Turns

Where the confirmed state moves can be read off the raw states: no candidate and no confirmed
state occurs below. -/

section

variable (due) (time : ι → T) (raw : ι → α)

/-- The raw state of the newest observation was the same back to one that is long enough ago. -/
def Held : List ι → Prop
  | [] => False
  | o :: h => ∃ first ∈ h.takeWhile (raw · = raw o), due (time first) (time o) = true

instance : (h : List ι) → Decidable (Held due time raw h)
  | [] => .isFalse id
  | o :: h =>
      inferInstanceAs (Decidable (∃ first ∈ h.takeWhile (raw · = raw o),
        due (time first) (time o) = true))

/-- A state is worse than all observations back to a held one. -/
def WorseSinceHeld (a : α) : List ι → Prop
  | [] => False
  | o :: h => raw o < a ∧ (Held due time raw (o :: h) ∨ WorseSinceHeld a h)

instance decidableWorseSinceHeld (a : α) :
    (h : List ι) → Decidable (WorseSinceHeld due time raw a h)
  | [] => .isFalse id
  | o :: h =>
      have := decidableWorseSinceHeld a h
      inferInstanceAs (Decidable (raw o < a ∧ (_ ∨ _)))

/-- The newest observation turns the course of the raw states: its state is held, or worse
than all since a held one. -/
def Turn : List ι → Prop
  | [] => False
  | o :: h => Held due time raw (o :: h) ∨ WorseSinceHeld due time raw (raw o) h

instance : (h : List ι) → Decidable (Turn due time raw h)
  | [] => .isFalse id
  | _ :: _ => inferInstanceAs (Decidable (_ ∨ _))

/-- The raw states at the turns of observations, behind a history. -/
def turns (h : List (α × T)) : List (α × T) → List α
  | [] => []
  | o :: os =>
      (if Turn due Prod.snd Prod.fst (o :: h) then [o.1] else []) ++ turns (o :: h) os

end

theorem held_iff {o : ι} {h : List ι} :
    Held due time raw (o :: h) ↔ HeldFor due time raw (raw o) (o :: h) := by
  constructor
  · rintro ⟨first, hfirst, hdue⟩
    obtain ⟨streak, rest, heq⟩ := List.append_of_mem hfirst
    have hsame : ∀ o' ∈ streak ++ first :: rest, raw o' = raw o := fun o' ho' ↦
      of_decide_eq_true (List.all_eq_true.mp List.all_takeWhile o' (heq ▸ ho'))
    have hsplit : h = streak ++ first :: (rest ++ h.dropWhile (raw · = raw o)) :=
      calc h = h.takeWhile (raw · = raw o) ++ h.dropWhile (raw · = raw o) :=
            List.takeWhile_append_dropWhile.symm
        _ = (streak ++ first :: rest) ++ h.dropWhile (raw · = raw o) := by rw [heq]
        _ = _ := by rw [List.append_assoc, List.cons_append]
    refine ⟨o, streak, first, _, congrArg _ hsplit, rfl, ?_, ?_, hdue⟩
    · exact fun o' ho' ↦ hsame o' (List.mem_append_left _ ho')
    · exact hsame first (List.mem_append_right _ List.mem_cons_self)
  · rintro ⟨last, streak, first, rest, heq, -, hstreak, hfirst, hdue⟩
    cases heq
    refine ⟨first, ?_, hdue⟩
    rw [List.takeWhile_append_of_pos fun o' ho' ↦ decide_eq_true (hstreak o' ho'),
      List.takeWhile_cons_of_pos (by exact decide_eq_true hfirst)]
    exact List.mem_append_right _ List.mem_cons_self

section

variable [LinearOrder T]

/-- The confirmed state is the raw one when that is held, and otherwise the worse of the two. -/
theorem confirm_cons_state (hdue : ∀ a b c, a ≤ b → due b c = true → due a c = true)
    (hd : d.pending = none) {o : ι} {h : List ι} (htime : Ordered time (o :: h)) :
    (confirm due time raw d (o :: h)).state =
      if Held due time raw (o :: h) then raw o
      else max (raw o) (confirm due time raw d h).state := by
  rw [confirm, observe_moves]
  rcases lt_trichotomy (raw o) (confirm due time raw d h).state with hlt | heq | hgt
  · have hmoves : Moves due (confirm due time raw d h) (raw o) (time o) ↔
        Held due time raw (o :: h) := by
      rw [held_iff, heldFor_iff hdue hd htime hlt, Moves, or_iff_right hlt.not_gt,
        and_iff_right hlt]
    rw [if_congr hmoves rfl rfl, max_eq_right hlt.le]
  · rw [← heq, max_self, ite_self, ite_self]
  · rw [if_pos (.inl hgt), max_eq_left hgt.le, ite_self]

/-- Behind the worst state, a state is worse than all since a held one exactly if it is worse
than the confirmed one. -/
theorem worseSinceHeld_iff (hdue : ∀ a b c, a ≤ b → due b c = true → due a c = true)
    (hd : d.pending = none) (hworst : ∀ a, a ≤ d.state) {a : α} {h : List ι}
    (htime : Ordered time h) :
    WorseSinceHeld due time raw a h ↔ (confirm due time raw d h).state < a := by
  induction h with
  | nil => exact iff_of_false id (hworst a).not_gt
  | cons o h ih =>
      rw [WorseSinceHeld, ih htime.of_cons, confirm_cons_state hdue hd htime]
      by_cases hheld : Held due time raw (o :: h)
      · rw [if_pos hheld, and_iff_left (.inl hheld)]
      · rw [if_neg hheld, max_lt_iff, or_iff_right hheld]

/-- A turn confirms its raw state, and any other observation leaves the confirmed one. -/
theorem confirm_cons_eq_ite (hdue : ∀ a b c, a ≤ b → due b c = true → due a c = true)
    (hd : d.pending = none) (hworst : ∀ a, a ≤ d.state) {o : ι} {h : List ι}
    (htime : Ordered time (o :: h)) :
    (confirm due time raw d (o :: h)).state =
      if Turn due time raw (o :: h) then raw o else (confirm due time raw d h).state := by
  rw [confirm_cons_state hdue hd htime]
  have hworse : WorseSinceHeld due time raw (raw o) h ↔ _ :=
    worseSinceHeld_iff hdue hd hworst htime.of_cons
  by_cases hheld : Held due time raw (o :: h)
  · rw [if_pos hheld, if_pos (show Turn due time raw (o :: h) from .inl hheld)]
  · have hturn : Turn due time raw (o :: h) ↔ _ := (or_iff_right hheld).trans hworse
    rw [if_neg hheld, if_congr hturn rfl rfl, max_comm, max_def_lt]

end

/-- **Turns.**  The confirmed states change to the raw states at the turns. -/
theorem moves_eq_changes_turns [LinearOrder T]
    (hdue : ∀ a b c, a ≤ b → due b c = true → due a c = true) (hd : d.pending = none)
    (hworst : ∀ a, a ≤ d.state) {h os : List (α × T)} (htime : Ordered Prod.snd (os.reverse ++ h)) :
    moves due (confirm due Prod.snd Prod.fst d h) os =
      changes (confirm due Prod.snd Prod.fst d h).state (turns due h os) := by
  induction os generalizing h with
  | nil => rfl
  | cons o os ih =>
      rw [List.reverse_cons, List.append_assoc, List.singleton_append] at htime
      have hstate : (confirm due Prod.snd Prod.fst d (o :: h)).state = _ :=
        confirm_cons_eq_ite hdue hd hworst (htime.sublist (List.sublist_append_right _ _))
      have hrest := (changes_states _ os).trans (ih htime)
      rw [confirm] at hrest hstate
      rw [← changes_states, states, changes, turns]
      by_cases hturn : Turn due Prod.snd Prod.fst (o :: h)
      · rw [if_pos hturn] at hstate
        rw [hstate] at hrest ⊢
        rw [if_pos hturn, List.singleton_append, changes, hrest]
        split_ifs with hsame
        · rw [← hsame, hrest]
        · rfl
      · rw [if_neg hturn] at hstate
        rw [hstate] at hrest ⊢
        rw [if_neg hturn, List.nil_append, if_pos rfl, hrest]

end DroneComms.Debounce
