import Mathlib.Tactic

/-!
# Scanners that resynchronise

A scanner looks at the front of a buffer and either waits for more or takes some
elements off and says what they were.  It is a scanner only if it takes
something whenever it does not wait, and if what it takes does not depend on how
much is behind it (`stable`).

`Drains s bs ps rest` says that the scanner takes the pieces `ps` off the buffer
`bs` and then waits in front of `rest`.  Stability makes the pieces of a stream
independent of how it is cut into chunks (`Drains.append`).
-/

namespace DroneComms.Resync

universe u v

variable {β : Type u} {τ : Type v}

/-- A decision on the front of a buffer: wait, or take `n` elements as a `t`. -/
structure Scanner (β : Type u) (τ : Type v) where
  head : List β → Option (ℕ × τ)
  pos : ∀ {bs n t}, head bs = some (n, t) → 0 < n
  le_length : ∀ {bs n t}, head bs = some (n, t) → n ≤ bs.length
  stable : ∀ {bs n t} (cs : List β), head bs = some (n, t) → head (bs ++ cs) = some (n, t)

variable {s : Scanner β τ}

/-- An empty buffer waits. -/
theorem Scanner.head_nil (s : Scanner β τ) : s.head [] = none := by
  cases h : s.head [] with
  | none => rfl
  | some p =>
      have hpos := s.pos h
      have hle := s.le_length h
      exact absurd (lt_of_lt_of_le hpos hle) (lt_irrefl 0)

/-- The scanner takes the pieces off the buffer and then waits in front of `rest`. -/
inductive Drains (s : Scanner β τ) : List β → List (List β × τ) → List β → Prop
  | wait {bs} : s.head bs = none → Drains s bs [] bs
  | take {piece t bs ps rest} : s.head (piece ++ bs) = some (piece.length, t) →
      Drains s bs ps rest → Drains s (piece ++ bs) ((piece, t) :: ps) rest

namespace Drains

/-- What is taken and what is left make up the buffer. -/
theorem flatten {bs rest : List β} {ps : List (List β × τ)} (h : Drains s bs ps rest) :
    (ps.map Prod.fst).flatten ++ rest = bs := by
  induction h with
  | wait _ => rfl
  | take _ _ ih => rw [List.map_cons, List.flatten_cons, List.append_assoc, ih]

theorem head_rest {bs rest : List β} {ps : List (List β × τ)} (h : Drains s bs ps rest) :
    s.head rest = none := by
  induction h with
  | wait h => exact h
  | take _ _ ih => exact ih

/-- Every piece has at least one element. -/
theorem length_le {bs rest : List β} {ps : List (List β × τ)} (h : Drains s bs ps rest) :
    ps.length + rest.length ≤ bs.length := by
  induction h with
  | wait _ => exact (Nat.zero_add _).le
  | take hhead _ ih =>
      have hpos := s.pos hhead
      rw [List.length_cons, List.length_append]
      omega

/-- Every buffer can be drained. -/
theorem exists_drains (s : Scanner β τ) (bs : List β) : ∃ ps rest, Drains s bs ps rest := by
  induction hn : bs.length using Nat.strong_induction_on generalizing bs with
  | _ n ih =>
      cases hhead : s.head bs with
      | none => exact ⟨[], bs, .wait hhead⟩
      | some p =>
          obtain ⟨k, t⟩ := p
          have hpos := s.pos hhead
          have hle := s.le_length hhead
          have hlt : (bs.drop k).length < n := by
            rw [List.length_drop]
            omega
          obtain ⟨ps, rest, hps⟩ := ih _ hlt (bs.drop k) rfl
          have hsplit := List.take_append_drop k bs
          have htake : s.head (bs.take k ++ bs.drop k) = some ((bs.take k).length, t) := by
            rw [hsplit, hhead, List.length_take, Nat.min_eq_left hle]
          have hdrains := Drains.take htake hps
          rw [hsplit] at hdrains
          exact ⟨(bs.take k, t) :: ps, rest, hdrains⟩

/-- There is one way to drain a buffer. -/
theorem unique {bs rest rest' : List β} {ps ps' : List (List β × τ)}
    (h : Drains s bs ps rest) (h' : Drains s bs ps' rest') : ps = ps' ∧ rest = rest' := by
  induction h generalizing ps' with
  | wait hhead =>
      cases h' with
      | wait _ => exact ⟨rfl, rfl⟩
      | take hhead' _ =>
          rw [hhead] at hhead'
          cases hhead'
  | @take piece t bs ps rest hhead hps ih =>
      generalize hbs : piece ++ bs = buffer at h'
      cases h' with
      | wait hhead' =>
          rw [← hbs, hhead] at hhead'
          cases hhead'
      | @take piece' t' bs' ps' _ hhead' hps' =>
          rw [← hbs, hhead] at hhead'
          obtain ⟨hlength, rfl⟩ := Prod.mk.inj (Option.some.inj hhead')
          obtain ⟨rfl, rfl⟩ := List.append_inj hbs hlength
          obtain ⟨rfl, rfl⟩ := ih hps'
          exact ⟨rfl, rfl⟩

/-- **Chunking.**  Draining a buffer and then, with more behind it, what was left is
draining it all at once. -/
theorem append {bs rest cs rest' : List β} {ps qs : List (List β × τ)}
    (h : Drains s bs ps rest) (h' : Drains s (rest ++ cs) qs rest') :
    Drains s (bs ++ cs) (ps ++ qs) rest' := by
  induction h with
  | wait _ => exact h'
  | take hhead _ ih =>
      have hstable := s.stable cs hhead
      rw [List.append_assoc] at hstable ⊢
      exact .take hstable (ih h')

/-- Elements that are taken one by one wherever they stand are passed over. -/
theorem passOver {g bs rest : List β} {ps : List (List β × τ)}
    (hg : ∀ a b c, g = a ++ b :: c → ∃ t, s.head (b :: (c ++ bs)) = some (1, t))
    (h : Drains s bs ps rest) :
    ∃ qs : List (List β × τ), qs.map Prod.fst = g.map (fun b ↦ [b]) ∧
      Drains s (g ++ bs) (qs ++ ps) rest := by
  induction g with
  | nil => exact ⟨[], rfl, h⟩
  | cons b c ih =>
      obtain ⟨t, ht⟩ := hg [] b c rfl
      obtain ⟨qs, hqs, hdrains⟩ := ih fun a b' c' hc ↦ hg (b :: a) b' c' (by rw [hc]; rfl)
      refine ⟨([b], t) :: qs, by rw [List.map_cons, List.map_cons, hqs], ?_⟩
      show Drains s ([b] ++ (c ++ bs)) _ _
      exact .take ht hdrains

/-- A stream of pieces that are taken whole is drained into them. -/
theorem of_pieces (ps : List (List β × τ)) {bs rest : List β} {qs : List (List β × τ)}
    (hps : ∀ p ∈ ps, ∀ cs, s.head (p.1 ++ cs) = some (p.1.length, p.2))
    (h : Drains s bs qs rest) : Drains s ((ps.map Prod.fst).flatten ++ bs) (ps ++ qs) rest := by
  induction ps with
  | nil => exact h
  | cons p ps ih =>
      rw [List.map_cons, List.flatten_cons, List.append_assoc, List.cons_append]
      have hp := hps p List.mem_cons_self
      exact .take (hp _) (ih fun q hq ↦ hps q (List.mem_cons_of_mem p hq))

end Drains

end DroneComms.Resync
