import DroneComms.Lib.Window
import DroneComms.Py.TextFile
import DroneComms.Ui.Finite

/-!
# The log ring

`meshsa/ui/logring.py`: the tail of the log that the console serves.  The values of an entry
are filtered as those of a feature are, and again its timestamp is not.

What structlog hands over besides scalars, lists and dictionaries is filtered like these.
-/

namespace DroneComms.Ui

open Py (Value Dict)
open Py.Json (setKey)
open Py.Value (AllFinite AllFiniteMembers)

/-- `_LEVELS`. -/
def levels : List (String × ℕ) :=
  [("debug", 10), ("info", 20), ("warn", 30), ("warning", 30), ("error", 40), ("exception", 40),
    ("critical", 50), ("fatal", 50)]

/-- `_UNKNOWN_LEVEL`. -/
def unknownLevel : ℕ := 20

/-- `_RESERVED_KEYS`. -/
def reservedKeys : List String := ["event", "logger", "level", "timestamp"]

/-- What `LogRing.__init__` raises. -/
inductive LogRingError where
  | size
  | level (level : List Char)
deriving DecidableEq, Repr

/-- What a `LogRing` is made with. -/
structure LogRing where
  size : ℕ
  size_pos : 0 < size
  floor : ℕ

/-- A call of the processor; `clock.now()` is part of it. -/
structure LogCall where
  methodName : String
  eventDict : Dict
  now : ℚ

namespace LogCall

/-- The timestamp of an entry. -/
def stamp (c : LogCall) : Value :=
  match c.eventDict.lookup "timestamp" with
  | some (.int n) => .int n
  | some (.float x) => .float x
  | some (.bool b) => .bool b
  | _ => .float (.fin c.now)

/-- A value that is served if it is a scalar. -/
def scalarAt (c : LogCall) (key : String) : Value :=
  ((c.eventDict.lookup key).filter isScalar).getD .none

/-- The body of the loop over the bound values. -/
def bind (entry : Dict) (kv : String × Value) : Dict :=
  if kv.1 ∉ reservedKeys ∧ isScalar kv.2 = true then setKey entry kv.1 kv.2 else entry

def entry (c : LogCall) : Dict :=
  c.eventDict.foldl bind [("ts", c.stamp), ("level", .str c.methodName),
    ("logger", c.scalarAt "logger"), ("event", c.scalarAt "event")]

end LogCall

namespace LogRing

theorem toNat_pos {size : ℤ} (hsize : ¬size ≤ 0) : 0 < size.toNat := by omega

/-- `__init__`.  No letter outside ASCII is lowered to one of a level. -/
def make (size : ℤ) (level : List Char) : Except LogRingError LogRing :=
  if hsize : size ≤ 0 then .error .size
  else
    match levels.lookup (String.ofList ((Py.strip level).map Char.toLower)) with
    | none => .error (.level level)
    | some floor => .ok ⟨size.toNat, toNat_pos hsize, floor⟩

/-- The level is at or above the floor. -/
def passes (ring : LogRing) (c : LogCall) : Bool :=
  ring.floor ≤ (levels.lookup c.methodName).getD unknownLevel

/-- `processor`, with the entries of the ring. -/
def processor (ring : LogRing) (entries : List Dict) (c : LogCall) : Dict × List Dict :=
  (c.eventDict, if ring.passes c then Window.lastN ring.size (entries ++ [c.entry]) else entries)

/-- `entries`, after the calls of the processor. -/
def entriesAfter (ring : LogRing) (cs : List LogCall) : List Dict :=
  cs.foldl (fun entries c ↦ (ring.processor entries c).2) []

end LogRing

/-! ## The tail -/

namespace LogRing

variable (ring : LogRing)

/-- The calls whose entries are in the ring. -/
def tail (cs : List LogCall) : List LogCall :=
  Window.lastN ring.size (cs.filter ring.passes)

theorem entriesAfter_concat (cs : List LogCall) (c : LogCall) :
    ring.entriesAfter (cs ++ [c]) = (ring.processor (ring.entriesAfter cs) c).2 := by
  simp only [entriesAfter, List.foldl_append, List.foldl_cons, List.foldl_nil]

/-- The ring holds the entries of the last calls that pass, in their order. -/
theorem entriesAfter_eq (cs : List LogCall) :
    ring.entriesAfter cs = (ring.tail cs).map LogCall.entry := by
  rw [tail, Window.map_lastN]
  induction cs using List.reverseRecOn with
  | nil => simp [entriesAfter, Window.lastN]
  | append_singleton cs c ih =>
      rw [entriesAfter_concat, processor, ih, List.filter_append, List.map_append]
      cases hpasses : ring.passes c with
      | true =>
          simp only [if_true, List.filter_cons_of_pos hpasses, List.filter_nil, List.map_cons,
            List.map_nil]
          exact Window.lastN_concat _ _ _
      | false =>
          simp [hpasses]

/-- The newest entry is the last. -/
theorem getLast?_entriesAfter (cs : List LogCall) {c : LogCall} (hpasses : ring.passes c = true) :
    (ring.entriesAfter (cs ++ [c])).getLast? = some c.entry := by
  rw [entriesAfter_concat, processor, if_pos hpasses]
  exact Window.getLast?_lastN_concat ring.size_pos _ _

end LogRing

/-! ## Numbers -/

theorem allFiniteMembers_iff (d : Dict) :
    AllFiniteMembers d ↔ ∀ kv ∈ d, kv.2.AllFinite := by
  induction d with
  | nil => simp [AllFiniteMembers]
  | cons kv d ih => simp [AllFiniteMembers, ih]

theorem mem_setKey {d : Dict} {k : String} {v : Value} {kv : String × Value} :
    kv ∈ setKey d k v ↔ kv = (k, v) ∨ kv ∈ d ∧ kv.1 ≠ k := by
  unfold setKey
  split_ifs with hany
  · obtain ⟨old, hold, hkey⟩ := List.any_eq_true.mp hany
    rw [List.mem_map]
    constructor
    · rintro ⟨kv', hkv', rfl⟩
      split_ifs with hk
      · exact .inl rfl
      · exact .inr ⟨hkv', hk⟩
    · rintro (rfl | ⟨hkv, hk⟩)
      · exact ⟨old, hold, if_pos (of_decide_eq_true hkey)⟩
      · exact ⟨kv, hkv, if_neg hk⟩
  · rw [List.mem_append, List.mem_singleton, or_comm]
    refine or_congr_right (and_iff_left_of_imp fun hkv hk ↦ hany ?_).symm
    exact List.any_eq_true.mpr ⟨kv, hkv, decide_eq_true hk⟩

/-- All but the timestamp is filtered. -/
def Filtered (entry : Dict) : Prop := ∀ kv ∈ entry, kv.1 ≠ "ts" → isScalar kv.2 = true

variable {entry : Dict} {k : String} {v : Value}

theorem Filtered.assign (h : Filtered entry) (hv : isScalar v = true) :
    Filtered (setKey entry k v) := by
  intro kv hkv hts
  rcases mem_setKey.mp hkv with rfl | ⟨hkv, -⟩
  · exact hv
  · exact h kv hkv hts

theorem Filtered.allFinite_iff (h : Filtered entry) :
    AllFiniteMembers entry ↔ ∀ v, ("ts", v) ∈ entry → v.AllFinite := by
  rw [allFiniteMembers_iff]
  constructor
  · exact fun hfinite v hv ↦ hfinite _ hv
  · rintro hts ⟨key, v⟩ hkv
    by_cases hkey : key = "ts"
    · subst hkey
      exact hts v hkv
    · exact allFinite_of_isScalar (h _ hkv hkey)

/-- A bound value takes nothing from the numbers of an entry, and one named `ts` replaces the
timestamp. -/
theorem Filtered.allFinite_setKey (h : Filtered entry) (hv : isScalar v = true) :
    AllFiniteMembers (setKey entry k v) ↔ k = "ts" ∨ AllFiniteMembers entry := by
  rw [(h.assign hv).allFinite_iff, h.allFinite_iff]
  by_cases hk : k = "ts"
  · refine iff_of_true (fun x hx ↦ ?_) (.inl hk)
    rcases mem_setKey.mp hx with hx | ⟨-, hne⟩
    · cases hx
      exact allFinite_of_isScalar hv
    · exact absurd hk.symm hne
  · rw [or_iff_right hk]
    refine forall_congr' fun x ↦ imp_congr_left ?_
    rw [mem_setKey, or_iff_right fun hx ↦ hk (congrArg Prod.fst hx).symm]
    exact and_iff_left (Ne.symm hk)

/-- The event has a scalar named `ts`. -/
def Renamed (eventDict : Dict) : Prop := ∃ v, ("ts", v) ∈ eventDict ∧ isScalar v = true

theorem allFinite_foldl_bind (eventDict : Dict) (h : Filtered entry) :
    AllFiniteMembers (eventDict.foldl LogCall.bind entry) ↔
      Renamed eventDict ∨ AllFiniteMembers entry := by
  induction eventDict generalizing entry with
  | nil => exact (or_iff_right fun ⟨_, hv, _⟩ ↦ List.not_mem_nil hv).symm
  | cons kv eventDict ih =>
      have hrenamed : Renamed (kv :: eventDict) ↔
          (kv.1 = "ts" ∧ isScalar kv.2 = true) ∨ Renamed eventDict := by
        simp only [Renamed, List.mem_cons, or_and_right, exists_or]
        refine or_congr_left ⟨?_, fun ⟨hkey, hv⟩ ↦ ⟨kv.2, Prod.ext hkey.symm rfl, hv⟩⟩
        rintro ⟨v, rfl, hv⟩
        exact ⟨rfl, hv⟩
      rw [List.foldl_cons, hrenamed, LogCall.bind]
      split_ifs with hbound
      · rw [ih (h.assign hbound.2), h.allFinite_setKey hbound.2, and_iff_left hbound.2]
        exact or_left_comm.trans or_assoc.symm
      · have hnot : ¬(kv.1 = "ts" ∧ isScalar kv.2 = true) := by
          rintro ⟨hkey, hv⟩
          refine hbound ⟨?_, hv⟩
          rw [hkey]
          decide
        rw [ih h, or_iff_right hnot]

namespace LogCall

theorem isScalar_scalarAt (c : LogCall) (key : String) : isScalar (c.scalarAt key) = true := by
  rw [scalarAt]
  cases h : (c.eventDict.lookup key).filter isScalar with
  | none => rfl
  | some v => exact (Option.filter_eq_some_iff.mp h).2

/-- An entry is JSON exactly if its timestamp is finite, or a bound value has its name. -/
theorem allFinite_entry (c : LogCall) :
    AllFiniteMembers c.entry ↔ Renamed c.eventDict ∨ c.stamp.AllFinite := by
  have hfiltered : Filtered [("ts", c.stamp), ("level", .str c.methodName),
      ("logger", c.scalarAt "logger"), ("event", c.scalarAt "event")] := by
    intro kv hkv hts
    simp only [List.mem_cons, List.not_mem_nil, or_false] at hkv
    rcases hkv with rfl | rfl | rfl | rfl
    · exact absurd rfl hts
    · rfl
    · exact c.isScalar_scalarAt "logger"
    · exact c.isScalar_scalarAt "event"
  rw [entry, allFinite_foldl_bind _ hfiltered, hfiltered.allFinite_iff]
  refine or_congr_right ⟨fun h ↦ h _ List.mem_cons_self, fun h v hv ↦ ?_⟩
  simp only [List.mem_cons, Prod.mk.injEq, List.not_mem_nil, or_false] at hv
  rcases hv with ⟨-, rfl⟩ | ⟨hkey, -⟩ | ⟨hkey, -⟩ | ⟨hkey, -⟩
  · exact h
  all_goals exact absurd hkey (by decide)

end LogCall

/-- **The log tail.**  Whatever is logged, the ring serves the entries of the last calls at or
above its floor, in order and at most its size, and what it serves is JSON exactly if each of
these calls has a finite timestamp, none, or a scalar of its own under `ts`. -/
theorem LogRing.log_tail (ring : LogRing) (cs : List LogCall) :
    ring.entriesAfter cs = (ring.tail cs).map LogCall.entry ∧
      (ring.tail cs).length = min ring.size (cs.countP ring.passes) ∧
      ((Value.list ((ring.entriesAfter cs).map .dict)).AllFinite ↔
        ∀ c ∈ ring.tail cs, Renamed c.eventDict ∨ c.stamp.AllFinite) := by
  have heq := ring.entriesAfter_eq cs
  refine ⟨heq, ?_, ?_⟩
  · rw [tail, Window.length_lastN, List.countP_eq_length_filter]
  · rw [heq, List.map_map, AllFinite, Py.Value.allFiniteItems_iff, List.forall_mem_map]
    exact forall₂_congr fun c _ ↦ c.allFinite_entry

end DroneComms.Ui
