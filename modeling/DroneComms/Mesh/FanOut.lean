import DroneComms.Mesh.Router
import DroneComms.Lib.Automaton
import Mathlib.Tactic

/-!
# Isolation of the fan-out

When encoding for one target or sending to it raises, the other targets should
still get the envelope and a pump should go on.  `publish` and `_pump` loop over
their targets without a guard, while a subscriber's exception is caught.

A fan-out under way accounts for each target it owes: the target is still to
come, was handed the envelope, or failed (`FanOut.Tracks`).  A run keeps the
isolation exactly if no pump comes to a failing target and no `publish` call
comes to one with a target behind it that the codec can encode for.
-/

namespace DroneComms.Mesh

variable {β : Type} {r : Router β}

namespace Router

/-- The codec of the target can encode the envelope. -/
def Encodes (r : Router β) (e : Envelope) (target : ℕ) : Prop :=
  ((r.codecFor target).encode e).toBool = true

instance (r : Router β) (e : Envelope) (target : ℕ) : Decidable (r.Encodes e target) :=
  inferInstanceAs (Decidable (_ = true))

end Router

namespace FanOut

/-- Every target was handed the envelope, unless encoding for it or sending to it
raises. -/
def Complete (r : Router β) (f : FanOut) (targets : List ℕ) : Prop :=
  ∀ t ∈ targets, t ∈ f.handed ∨ t ∈ f.failed ∨ ¬ r.Encodes f.envelope t

/-- The fan-out accounts for each of its targets. -/
def Tracks (f : FanOut) (targets : List ℕ) : Prop :=
  (f.targets ++ (f.handed ++ f.failed)).Perm targets

variable {f : FanOut} {targets : List ℕ}

theorem Tracks.start (e : Envelope) (targets : List ℕ) : Tracks ⟨e, targets, [], []⟩ targets := by
  rw [Tracks, List.append_nil, List.append_nil]

/-- A fan-out breaks off complete exactly if no codec can encode for the targets
behind. -/
theorem Tracks.complete_iff (h : f.Tracks targets) (hnodup : targets.Nodup) :
    f.Complete r targets ↔ ∀ t ∈ f.targets, ¬ r.Encodes f.envelope t := by
  have hdisjoint := (List.nodup_append.mp (h.nodup_iff.mpr hnodup)).2.2
  constructor
  · intro hcomplete t ht
    rcases hcomplete t (h.mem_iff.mp (List.mem_append_left _ ht)) with hh | hh | hh
    · exact absurd rfl (hdisjoint t ht t (List.mem_append_left _ hh))
    · exact absurd rfl (hdisjoint t ht t (List.mem_append_right _ hh))
    · exact hh
  · intro hbehind t ht
    have hmem := h.mem_iff.mpr ht
    rw [List.mem_append, List.mem_append] at hmem
    rcases hmem with htarget | hhanded | hfailed
    · exact .inr (.inr (hbehind t htarget))
    · exact .inl hhanded
    · exact .inr (.inl hfailed)

/-- A fan-out that has come to its end is complete. -/
theorem Tracks.complete (h : f.Tracks targets) (hnodup : targets.Nodup) (hnil : f.targets = []) :
    f.Complete r targets := by
  rw [h.complete_iff hnodup, hnil]
  exact List.forall_mem_nil _

/-- Everything an attempt can do: hand the envelope to the target, or fail at it. -/
theorem attempt_cases (r : Router β) (f : FanOut) (target : ℕ) (rest : List ℕ) (ok : Bool) :
    (r.Encodes f.envelope target ∧ ok = true ∧ Node.attempt r f target rest ok =
        ({ f with targets := rest, handed := target :: f.handed }, true)) ∨
      (¬ (r.Encodes f.envelope target ∧ ok = true) ∧ Node.attempt r f target rest ok =
        ({ f with targets := rest, failed := target :: f.failed }, false)) := by
  unfold Node.attempt
  split_ifs with h
  · rw [Bool.and_eq_true] at h
    exact .inl ⟨h.1, h.2, rfl⟩
  · rw [Bool.and_eq_true] at h
    exact .inr ⟨h, rfl⟩

/-- An attempt moves a target to where it belongs. -/
theorem Tracks.handed {target : ℕ} {rest : List ℕ} (h : f.Tracks targets)
    (htargets : f.targets = target :: rest) :
    Tracks { f with targets := rest, handed := target :: f.handed } targets := by
  unfold Tracks at h ⊢
  rw [htargets] at h
  exact List.perm_middle.trans h

theorem Tracks.failed {target : ℕ} {rest : List ℕ} (h : f.Tracks targets)
    (htargets : f.targets = target :: rest) :
    Tracks { f with targets := rest, failed := target :: f.failed } targets := by
  unfold Tracks at h ⊢
  rw [htargets] at h
  show (rest ++ (f.handed ++ target :: f.failed)).Perm targets
  rw [← List.append_assoc]
  refine List.perm_middle.trans ?_
  rw [List.append_assoc]
  exact h

end FanOut

/-- The targets of a pump. -/
def others (r : Router β) (source : ℕ) : List ℕ := r.targets.filter (· ≠ source)

theorem nodup_targets (r : Router β) : r.targets.Nodup := List.nodup_range

theorem nodup_others (r : Router β) (source : ℕ) : (others r source).Nodup :=
  (nodup_targets r).filter _

/-! ## What is asked of a task, and what is known of it -/

/-- A `publish` call that has ended is complete. -/
def Publish.Isolated (r : Router β) : Publish → Prop
  | .sending _ => True
  | .returned f | .raised f => f.Complete r r.targets

/-- A pump does not end. -/
def Pump.Isolated : Pump → Prop
  | .raised _ => False
  | _ => True

def Publish.Tracked (r : Router β) : Publish → Prop
  | .sending f | .raised f => f.Tracks r.targets
  | .returned f => f.Tracks r.targets ∧ f.targets = []

def Pump.Tracked (r : Router β) (source : ℕ) : Pump → Prop
  | .forwarding f => f.Tracks (others r source)
  | _ => True

namespace Node

variable {w q : Node} {e : NodeEvent β}

/-- One bad target stops neither the other targets nor a pump. -/
structure Isolated (r : Router β) (w : Node) : Prop where
  publishes : ∀ i p, w.publishes i = some p → p.Isolated r
  pumps : ∀ source, (w.pumps source).Isolated
  /-- What a pump has forwarded is complete. -/
  finished : ∀ source, ∀ f ∈ w.finished source, f.Complete r (others r source)

/-- An attempt that fails has no target behind it that the codec can encode for,
and no pump makes one. -/
def FailsHarmlessly (r : Router β) (w : Node) : NodeEvent β → Prop
  | .sendPublished i ok => ∀ f, w.publishes i = some (.sending f) →
      ∀ target targets, f.targets = target :: targets →
        (r.Encodes f.envelope target ∧ ok = true) ∨
          ∀ t ∈ targets, ¬ r.Encodes f.envelope t
  | .sendForwarded source ok => ∀ f, w.pumps source = .forwarding f →
      ∀ target targets, f.targets = target :: targets →
        r.Encodes f.envelope target ∧ ok = true
  | _ => True

/-- Every fan-out accounts for its targets. -/
structure Tracked (r : Router β) (w : Node) : Prop where
  publishes : ∀ i p, w.publishes i = some p → p.Tracked r
  pumps : ∀ source, (w.pumps source).Tracked r source

/-! ## Changing one task -/

/-- What holds of each task holds when one of them has changed. -/
theorem forall_update {ι α : Type} [DecidableEq ι] {f : ι → α} {i : ι} {a : α} {P : ι → α → Prop}
    (hf : ∀ j, P j (f j)) (ha : P i a) : ∀ j, P j (Function.update f i a j) :=
  (Function.forall_update_iff f P).mpr ⟨ha, fun j _ ↦ hf j⟩

theorem forall_finished_update {source : ℕ} {f : FanOut} {P : ℕ → FanOut → Prop}
    (hw : ∀ s, ∀ g ∈ w.finished s, P s g) (hf : P source f) :
    ∀ s, ∀ g ∈ Function.update w.finished source (f :: w.finished source) s, P s g :=
  forall_update (P := fun s fs ↦ ∀ g ∈ fs, P s g) hw (List.forall_mem_cons.mpr ⟨hf, hw source⟩)

theorem forall_publishes_update {i : ℕ} {p : Publish} {P : Publish → Prop}
    (hw : ∀ j u, w.publishes j = some u → P u) (hp : P p) :
    ∀ j u, Function.update w.publishes i (some p) j = some u → P u := by
  apply forall_update (P := fun _ o ↦ ∀ u, o = some u → P u) hw
  rintro u ⟨⟩
  exact hp

/-! ## The pumps -/

/-- A pump goes on with a fan-out it accounts for. -/
theorem tracked_forwarding {source : ℕ} {f : FanOut} (hw : w.Tracked r)
    (hf : f.Tracks (others r source)) : (w.forwarding source f).Tracked r := by
  unfold forwarding
  split_ifs
  · exact ⟨hw.publishes, forall_update hw.pumps trivial⟩
  · exact ⟨hw.publishes, forall_update hw.pumps hf⟩

theorem isolated_forwarding {source : ℕ} {f : FanOut} (hw : w.Isolated r)
    (hf : f.Tracks (others r source)) : (w.forwarding source f).Isolated r := by
  unfold forwarding
  split_ifs with hnil
  · exact ⟨hw.publishes, forall_update hw.pumps trivial,
      forall_finished_update hw.finished (hf.complete (nodup_others r source) hnil)⟩
  · exact ⟨hw.publishes, forall_update hw.pumps trivial, hw.finished⟩

/-- A pump that has called its subscribers starts a fan-out. -/
theorem tracked_handling {source : ℕ} (hw : w.Tracked r) (env : Envelope) (handlers : ℕ) :
    (w.handling r source env handlers).Tracked r := by
  cases handlers with
  | zero => exact tracked_forwarding hw (.start env _)
  | succ n => exact ⟨hw.publishes, forall_update hw.pumps trivial⟩

theorem isolated_handling {source : ℕ} (hw : w.Isolated r) (env : Envelope) (handlers : ℕ) :
    (w.handling r source env handlers).Isolated r := by
  cases handlers with
  | zero => exact isolated_forwarding hw (.start env _)
  | succ n => exact ⟨hw.publishes, forall_update hw.pumps trivial, hw.finished⟩

/-- Marking an id leaves the tasks alone. -/
theorem markSeen_fst (r : Router β) (w : Node) (msgId : String) :
    ∃ seen, (w.markSeen r msgId).1 = { w with seen } := by
  unfold markSeen
  split_ifs
  · exact ⟨w.seen, rfl⟩
  · exact ⟨_, rfl⟩

/-- A frame is dropped or handled; the rest is bookkeeping. -/
theorem receive_cases (r : Router β) (w : Node) (source : ℕ) (data : β) :
    ∃ seen metrics, w.receive r source data = { w with seen, metrics } ∨
      ∃ env, w.receive r source data =
        handling r { w with seen, metrics } source env w.subscribers := by
  unfold receive
  split
  · exact ⟨_, _, .inl rfl⟩
  · exact ⟨_, _, .inl rfl⟩
  · rename_i env henv
    obtain ⟨seen, hseen⟩ := markSeen_fst r
      { w with metrics := { w.metrics with rx := w.metrics.rx + 1 } } env.msgId
    refine ⟨seen, { w.metrics with rx := w.metrics.rx + 1 }, ?_⟩
    dsimp only
    split_ifs
    · exact .inr ⟨env, by rw [hseen]⟩
    · exact .inl hseen

theorem tracked_receive {source : ℕ} (hw : w.Tracked r) (data : β) :
    (w.receive r source data).Tracked r := by
  obtain ⟨seen, metrics, heq | ⟨env, heq⟩⟩ := receive_cases r w source data
  · rw [heq]
    exact ⟨hw.publishes, hw.pumps⟩
  · rw [heq]
    apply tracked_handling
    exact ⟨hw.publishes, hw.pumps⟩

theorem isolated_receive {source : ℕ} (hw : w.Isolated r) (data : β) :
    (w.receive r source data).Isolated r := by
  obtain ⟨seen, metrics, heq | ⟨env, heq⟩⟩ := receive_cases r w source data
  · rw [heq]
    exact ⟨hw.publishes, hw.pumps, hw.finished⟩
  · rw [heq]
    apply isolated_handling
    exact ⟨hw.publishes, hw.pumps, hw.finished⟩

/-! ## The steps -/

/-- A `publish` call that goes on accounts for its targets. -/
theorem tracked_publishing {f : FanOut} (hf : f.Tracks r.targets) :
    (publishing f).Tracked r := by
  unfold publishing
  split_ifs with hnil
  · exact ⟨hf, hnil⟩
  · exact hf

theorem isolated_publishing {f : FanOut} (hf : f.Tracks r.targets) :
    (publishing f).Isolated r := by
  unfold publishing
  split_ifs with hnil
  · exact hf.complete (nodup_targets r) hnil
  · trivial

/-- A frame reaches a pump that waits for one. -/
theorem step_frame {source : ℕ} {data : β} (h : w.step r (.frame source data) = some q) :
    w.pumps source = .reading ∧ source < r.transports.length ∧ q = w.receive r source data := by
  simp only [step] at h
  split at h
  · rename_i hpump
    obtain ⟨hsource, h⟩ := Option.ite_none_right_eq_some.mp h
    cases h
    exact ⟨hpump, hsource, rfl⟩
  · cases h

/-- One of the subscribers a pump still has to call has been called. -/
theorem step_handled {source : ℕ} {ok : Bool} (h : w.step r (.handled source ok) = some q) :
    ∃ env n, w.pumps source = .handling env (n + 1) ∧ q = w.handling r source env n := by
  simp only [step] at h
  split at h
  · rename_i env n hpump
    cases h
    exact ⟨env, n, hpump, rfl⟩
  · cases h

/-- An attempt of a `publish` call. -/
theorem step_sendPublished {i : ℕ} {ok : Bool} (h : w.step r (.sendPublished i ok) = some q) :
    ∃ f target targets, w.publishes i = some (.sending f) ∧ f.targets = target :: targets ∧
      ((r.Encodes f.envelope target ∧ ok = true ∧ q = { w with
          metrics := { w.metrics with tx := w.metrics.tx + 1 }
          publishes := Function.update w.publishes i (some (publishing
            { f with targets, handed := target :: f.handed })) }) ∨
        (¬ (r.Encodes f.envelope target ∧ ok = true) ∧ q = { w with
          publishes := Function.update w.publishes i (some (.raised
            { f with targets, failed := target :: f.failed })) })) := by
  simp only [step] at h
  split at h
  · rename_i f hf
    split at h
    · cases h
    · rename_i target targets htargets
      refine ⟨f, target, targets, hf, htargets, ?_⟩
      rcases FanOut.attempt_cases r f target targets ok with ⟨henc, hok, heq⟩ | ⟨hfail, heq⟩
      · rw [heq] at h
        cases h
        exact .inl ⟨henc, hok, rfl⟩
      · rw [heq] at h
        cases h
        exact .inr ⟨hfail, rfl⟩
  · cases h

/-- An attempt of a pump. -/
theorem step_sendForwarded {source : ℕ} {ok : Bool}
    (h : w.step r (.sendForwarded source ok) = some q) :
    ∃ f target targets, w.pumps source = .forwarding f ∧ f.targets = target :: targets ∧
      ((r.Encodes f.envelope target ∧ ok = true ∧ q =
          forwarding { w with metrics := { w.metrics with forwarded := w.metrics.forwarded + 1 } }
            source { f with targets, handed := target :: f.handed }) ∨
        (¬ (r.Encodes f.envelope target ∧ ok = true) ∧ q = { w with
          pumps := Function.update w.pumps source (.raised
            { f with targets, failed := target :: f.failed }) })) := by
  simp only [step] at h
  split at h
  · rename_i f hf
    split at h
    · cases h
    · rename_i target targets htargets
      refine ⟨f, target, targets, hf, htargets, ?_⟩
      rcases FanOut.attempt_cases r f target targets ok with ⟨henc, hok, heq⟩ | ⟨hfail, heq⟩
      · rw [heq] at h
        cases h
        exact .inl ⟨henc, hok, rfl⟩
      · rw [heq] at h
        cases h
        exact .inr ⟨hfail, rfl⟩
  · cases h

theorem Tracked.step (hw : w.Tracked r) (h : w.step r e = some q) : q.Tracked r := by
  cases e with
  | subscribe =>
      cases h
      exact ⟨hw.publishes, hw.pumps⟩
  | publish i env =>
      obtain ⟨-, h⟩ := Option.ite_none_left_eq_some.mp h
      obtain ⟨seen, hseen⟩ := markSeen_fst r w env.msgId
      rw [hseen] at h
      cases h
      refine ⟨forall_publishes_update hw.publishes ?_, hw.pumps⟩
      exact tracked_publishing (.start env _)
  | frame source data =>
      obtain ⟨-, -, rfl⟩ := step_frame h
      exact tracked_receive hw data
  | handled source ok =>
      obtain ⟨env, n, -, rfl⟩ := step_handled h
      exact tracked_handling hw env n
  | sendPublished i ok =>
      obtain ⟨f, target, targets, hf, htargets, ⟨-, -, rfl⟩ | ⟨-, rfl⟩⟩ :=
        step_sendPublished h
      · have htracks := FanOut.Tracks.handed (hw.publishes i _ hf) htargets
        exact ⟨forall_publishes_update hw.publishes (tracked_publishing htracks), hw.pumps⟩
      · have htracks := FanOut.Tracks.failed (hw.publishes i _ hf) htargets
        exact ⟨forall_publishes_update hw.publishes htracks, hw.pumps⟩
  | sendForwarded source ok =>
      obtain ⟨f, target, targets, hf, htargets, hcases⟩ := step_sendForwarded h
      have hpump := hw.pumps source
      rw [hf] at hpump
      rcases hcases with ⟨-, -, rfl⟩ | ⟨-, rfl⟩
      · apply tracked_forwarding
        · exact ⟨hw.publishes, hw.pumps⟩
        · exact FanOut.Tracks.handed hpump htargets
      · exact ⟨hw.publishes, forall_update hw.pumps trivial⟩

/-- A step keeps the isolation exactly if a failing attempt in it is harmless. -/
theorem isolated_step_iff (ht : w.Tracked r) (hw : w.Isolated r) (h : w.step r e = some q) :
    q.Isolated r ↔ w.FailsHarmlessly r e := by
  cases e with
  | subscribe =>
      cases h
      exact iff_of_true ⟨hw.publishes, hw.pumps, hw.finished⟩ trivial
  | publish i env =>
      obtain ⟨-, h⟩ := Option.ite_none_left_eq_some.mp h
      obtain ⟨seen, hseen⟩ := markSeen_fst r w env.msgId
      rw [hseen] at h
      cases h
      refine iff_of_true ⟨forall_publishes_update hw.publishes ?_, hw.pumps, hw.finished⟩ trivial
      exact isolated_publishing (.start env _)
  | frame source data =>
      obtain ⟨-, -, rfl⟩ := step_frame h
      exact iff_of_true (isolated_receive hw data) trivial
  | handled source ok =>
      obtain ⟨env, n, -, rfl⟩ := step_handled h
      exact iff_of_true (isolated_handling hw env n) trivial
  | sendPublished i ok =>
      obtain ⟨f, target, targets, hf, htargets, hcases⟩ := step_sendPublished h
      have hcond : w.FailsHarmlessly r (.sendPublished i ok) ↔
          (r.Encodes f.envelope target ∧ ok = true) ∨
            ∀ t ∈ targets, ¬ r.Encodes f.envelope t := by
        constructor
        · exact fun hcond ↦ hcond f hf target targets htargets
        · intro hcond f' hf' target' targets' htargets'
          rw [hf] at hf'
          cases hf'
          rw [htargets] at htargets'
          cases htargets'
          exact hcond
      rw [hcond]
      rcases hcases with ⟨henc, hok, rfl⟩ | ⟨hfail, rfl⟩
      · have htracks := FanOut.Tracks.handed (ht.publishes i _ hf) htargets
        refine iff_of_true ⟨?_, hw.pumps, hw.finished⟩ (.inl ⟨henc, hok⟩)
        exact forall_publishes_update hw.publishes (isolated_publishing htracks)
      · have htracks := FanOut.Tracks.failed (ht.publishes i _ hf) htargets
        have hcomplete := htracks.complete_iff (r := r) (nodup_targets r)
        rw [or_iff_right hfail]
        constructor
        · intro hq
          exact hcomplete.mp (hq.publishes i _ (Function.update_self ..))
        · intro hbehind
          refine ⟨?_, hw.pumps, hw.finished⟩
          exact forall_publishes_update hw.publishes (hcomplete.mpr hbehind)
  | sendForwarded source ok =>
      obtain ⟨f, target, targets, hf, htargets, hcases⟩ := step_sendForwarded h
      have hpump := ht.pumps source
      rw [hf] at hpump
      rcases hcases with ⟨henc, hok, rfl⟩ | ⟨hfail, rfl⟩
      · refine iff_of_true ?_ fun f' hf' target' targets' htargets' ↦ ?_
        · apply isolated_forwarding
          · exact ⟨hw.publishes, hw.pumps, hw.finished⟩
          · exact FanOut.Tracks.handed hpump htargets
        · rw [hf] at hf'
          cases hf'
          rw [htargets] at htargets'
          cases htargets'
          exact ⟨henc, hok⟩
      · refine iff_of_false (fun hq ↦ ?_) fun hcond ↦ ?_
        · have hraised : (Function.update w.pumps source (Pump.raised
              { f with targets, failed := target :: f.failed }) source).Isolated := hq.pumps source
          rw [Function.update_self] at hraised
          exact hraised
        · exact hfail (hcond f hf target targets htargets)

theorem tracked_start (r : Router β) : Tracked r {} where
  publishes _ _ h := nomatch h
  pumps _ := trivial

theorem isolated_start (r : Router β) : Isolated r {} where
  publishes _ _ h := nomatch h
  pumps _ := trivial
  finished _ _ h := nomatch h

/-- **Isolation.**  In every run, the targets of a fan-out do not depend on each
other and no pump ends if and only if every failing attempt is harmless. -/
theorem isolated_always_iff_fails_harmlessly (r : Router β) (es : List (NodeEvent β)) :
    Automaton.Always (step r) (Isolated r) {} es ↔
      Automaton.Along (step r) (FailsHarmlessly r) {} es :=
  Automaton.always_iff_along (J := Tracked r) (fun _ _ _ hw h ↦ hw.step h)
    (fun _ _ _ ht hw h ↦ isolated_step_iff ht hw h)
    (tracked_start r) (isolated_start r) es

/-- The isolation fails: with three transports the send of a pump to the second
one raises, the pump ends and the third one never gets the envelope. -/
theorem raising_send_ends_pump :
    ¬ ∀ (r : Router Envelope) (es : List (NodeEvent Envelope)),
        Automaton.Always (step r) (Isolated r) {} es := by
  intro h
  let e : Envelope := ⟨1, "m1", .fin 0, "node", .pli, []⟩
  let r : Router Envelope := { transports := ["mesh", "tak", "lora"], codec := ⟨.ok, .ok⟩ }
  let es : List (NodeEvent Envelope) := [.frame 0 e, .sendForwarded 0 false]
  obtain ⟨w, hw, hraised⟩ : ∃ w, Automaton.exec (step r) {} es = some w ∧
      w.pumps 0 = .raised ⟨e, [2], [], [1]⟩ := ⟨_, rfl, rfl⟩
  have hisolated := Automaton.always_iff_prefix.mp (h r es) _ w (List.prefix_refl _) hw
  have hpump := hisolated.pumps 0
  rw [hraised] at hpump
  exact hpump

end Node

end DroneComms.Mesh
