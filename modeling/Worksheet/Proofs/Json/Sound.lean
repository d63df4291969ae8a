import Worksheet.Proofs.Json.Reader
import Worksheet.Proofs.Outcome

/- Worksheet JSON Soundness — what a tree can hold that is read from a text.

   Whatever the text is, the numbers of its tree are finite, its integers have at most 64
   bits, and its containers are nested no deeper than the reader goes
   (`Json.fits_of_readWith`). -/
namespace Worksheet

namespace Json

mutual
/-- Every number in a tree is finite, and an integer has at most 64 bits. -/
def Sound : Json → Prop
  | integer n => n.natAbs < UInt64.size
  | decimal x => x.isFinite = true
  | array items => SoundAll items
  | object members => SoundMembers members
  | _ => True

def SoundAll : List Json → Prop
  | [] => True
  | j :: js => j.Sound ∧ SoundAll js

def SoundMembers : List (String × Json) → Prop
  | [] => True
  | (_, j) :: ms => j.Sound ∧ SoundMembers ms
end

theorem soundAll_iff {js : List Json} : SoundAll js ↔ ∀ j ∈ js, j.Sound := by
  induction js with
  | nil => simp [SoundAll]
  | cons j js ih => simp [SoundAll, ih]

theorem soundMembers_iff {ms : List (String × Json)} : SoundMembers ms ↔ ∀ m ∈ ms, m.2.Sound := by
  induction ms with
  | nil => simp [SoundMembers]
  | cons m ms ih => simp [SoundMembers, ih]

/-- A tree is sound and nested no deeper than there is room for. -/
structure Fits (room : Nat) (j : Json) : Prop where
  sound : j.Sound
  nesting : j.nesting ≤ room

namespace Fits

variable {room : Nat} {js : List Json} {ms : List (String × Json)}

theorem of_mem_array (h : (array js).Fits room) : ∀ j ∈ js, j.Fits room := fun j hj =>
  ⟨soundAll_iff.mp h.sound j hj,
    (nestingAll_le_iff.mp le_rfl j hj).trans (Nat.le_of_succ_le h.nesting)⟩

theorem of_mem_object (h : (object ms).Fits room) : ∀ m ∈ ms, m.2.Fits room := fun m hm =>
  ⟨soundMembers_iff.mp h.sound m hm,
    (nestingMembers_le_iff.mp le_rfl m hm).trans (Nat.le_of_succ_le h.nesting)⟩

end Fits

end Json

namespace JsonToken

/-- A scalar that is read is sound. -/
def Fits : JsonToken → Prop
  | scalar v => v.Fits 0
  | _ => True

variable {reading : NumeralReading}

theorem fits_ofMagnitude (negative : Bool) (o : Option Float) : (ofMagnitude negative o).Fits 0 := by
  rcases ofMagnitude_cases negative o with h | ⟨x, hx, h⟩
  · rw [h]
    exact ⟨trivial, le_rfl⟩
  · rw [h]
    exact ⟨hx, le_rfl⟩

theorem fits_scanNumber {negative : Bool} {cs : List Char} {v : Json} {n : Nat}
    (h : scanNumber reading negative cs = some (v, n)) : v.Fits 0 := by
  simp only [scanNumber, Option.bind_eq_bind, Option.bind_eq_some_iff, Option.pure_def] at h
  obtain ⟨-, -, ⟨part, rest, partLength⟩, -, ⟨exponent, exponentLength⟩, -, h⟩ := h
  simp only at h
  split at h
  · rename_i hrange
    obtain ⟨rfl, -⟩ := Prod.mk.inj (Option.some.inj h)
    refine ⟨?_, le_rfl⟩
    simp only [integerRange, Bool.and_eq_true] at hrange
    rw [Json.Sound]
    cases negative <;> simp [UInt64.size] at hrange ⊢ <;> omega
  · obtain ⟨rfl, -⟩ := Prod.mk.inj (Option.some.inj h)
    exact fits_ofMagnitude _ _

/-- A token that is read is sound. -/
theorem fits_scan {c : Char} {cs : List Char} {t : JsonToken} {n : Nat}
    (h : scan reading c cs = some (t, n)) : t.Fits := by
  unfold scan at h
  split at h
  case h_7 =>
    obtain ⟨_, -, h⟩ := Option.map_eq_some_iff.mp h
    cases h
    trivial
  -- Numbers, with and without a sign, are the only scalars that can be unsound.
  case h_11 | h_12 =>
    obtain ⟨_, hnumber, h⟩ := Option.map_eq_some_iff.mp h
    cases h
    exact fits_scanNumber hnumber
  case h_8 | h_9 | h_10 =>
    cases h
    exact ⟨trivial, le_rfl⟩
  all_goals
    cases h
    trivial

theorem fits_scanAll {skip : Nat} {cs : List Char} {ts : List JsonToken}
    (h : scanAll reading skip cs = some ts) : ∀ t ∈ ts, t.Fits := by
  fun_induction scanAll reading skip cs generalizing ts with
  | case1 =>
    obtain rfl := Option.some.inj h
    exact List.forall_mem_nil _
  | case2 skip c cs ih => exact ih h
  | case3 c cs hc ih => exact ih h
  | case4 c cs hc hscan => exact nomatch h
  | case5 c cs hc t n hscan ih =>
    obtain ⟨ts, hts, rfl⟩ := Option.map_eq_some_iff.mp h
    exact List.forall_mem_cons.mpr ⟨fits_scan hscan, ih hts⟩

end JsonToken

namespace JsonState

/-! ## States of the reader -/

/-- The trees that an open container holds. -/
def values : JsonFrame → List Json
  | .array items => items
  | .object members _ => members.map (·.2)

/-- What is held in open containers is sound and leaves room for the containers. -/
def Framed : List JsonFrame → Prop
  | [] => True
  | frame :: rest => (∀ v ∈ values frame, v.Fits (Json.nestingLimit - rest.length - 1)) ∧ Framed rest

/-- What the reader has read so far is sound and not nested too deeply. -/
def Valid : JsonState → Prop
  | reading _ frames => Framed frames
  | complete v => v.Fits Json.nestingLimit

variable {frames rest : List JsonFrame} {frame : JsonFrame} {v : Json}

theorem valid_put (hv : v.Fits (Json.nestingLimit - frames.length)) (hf : Framed frames) :
    (put v frames).Valid := by
  cases frames with
  | nil => exact hv
  | cons frame rest =>
    cases frame with
    | array items => exact ⟨List.forall_mem_cons.mpr ⟨hv, hf.1⟩, hf.2⟩
    | object members name => exact ⟨List.forall_mem_cons.mpr ⟨hv, hf.1⟩, hf.2⟩

theorem fits_string {n : Nat} (s : Option String) :
    ((s.map Json.text).getD .unreadable).Fits n := by
  cases s <;> exact ⟨trivial, Nat.zero_le n⟩

theorem fits_closed {n : Nat} (h : ∀ v ∈ values frame, v.Fits n) : (closed frame).Fits (n + 1) := by
  cases frame with
  | array items =>
    refine ⟨Json.soundAll_iff.mpr fun j hj => (h j (List.mem_reverse.mp hj)).sound, ?_⟩
    exact Nat.succ_le_succ (Json.nestingAll_le_iff.mpr fun j hj =>
      (h j (List.mem_reverse.mp hj)).nesting)
  | object members name =>
    rw [closed]
    split
    · rename_i ms hms
      have hmem : ∀ m ∈ ms, m.2.Fits n := by
        intro m hm
        obtain ⟨m', hm', hname⟩ := exists_of_mem_mapM hms hm
        obtain ⟨name, -, rfl⟩ := Option.map_eq_some_iff.mp hname
        exact h m'.2 (List.mem_map_of_mem (List.mem_reverse.mp hm'))
      exact ⟨Json.soundMembers_iff.mpr fun m hm => (hmem m hm).sound,
        Nat.succ_le_succ (Json.nestingMembers_le_iff.mpr fun m hm => (hmem m hm).nesting)⟩
    · exact ⟨trivial, Nat.zero_le _⟩

theorem valid_close (hf : Framed (frame :: rest)) : (close frame rest).Valid := by
  refine valid_put ?_ hf.2
  split
  · exact ⟨trivial, Nat.zero_le _⟩
  · rename_i hlt
    have := fits_closed hf.1
    rwa [Nat.sub_add_cancel (by omega)] at this

/-- Every token keeps what is read so far sound. -/
theorem valid_step {s s' : JsonState} {t : JsonToken} (hs : s.Valid) (ht : t.Fits)
    (h : step s t = some s') : s'.Valid := by
  unfold step at h
  split at h
  case h_1 => exact nomatch h
  -- A name, a colon or a comma changes nothing that is held.
  case h_2 | h_3 | h_4 | h_7 | h_8 =>
    cases h
    exact hs
  case h_5 | h_6 =>
    split at h
    · cases h
      exact valid_close hs
    · exact nomatch h
  -- What is left is the first token of a value: it opens a container or is the value.
  case h_9 =>
    split at h
    · split at h
      case h_1 | h_2 =>
        cases h
        exact ⟨List.forall_mem_nil _, hs⟩
      case h_3 =>
        cases h
        exact valid_put (fits_string _) hs
      case h_4 =>
        cases h
        exact valid_put ⟨ht.sound, ht.nesting.trans (Nat.zero_le _)⟩ hs
      case h_5 => exact nomatch h
    · exact nomatch h

theorem valid_foldlM {ts : List JsonToken} {s s' : JsonState} (hs : s.Valid)
    (hts : ∀ t ∈ ts, t.Fits) (h : ts.foldlM step s = some s') : s'.Valid := by
  induction ts generalizing s with
  | nil =>
    obtain rfl := Option.some.inj h
    exact hs
  | cons t ts ih =>
    obtain ⟨ht, hts⟩ := List.forall_mem_cons.mp hts
    rw [List.foldlM_cons] at h
    obtain ⟨s₁, hstep, h⟩ := Option.bind_eq_some_iff.mp h
    exact ih (valid_step hs ht hstep) hts h

end JsonState

/-- What is read from a text is sound and not nested too deeply. -/
theorem Json.fits_of_readWith {reading : NumeralReading} {text : String} {j : Json}
    (h : readWith reading text = some j) : j.Fits nestingLimit := by
  obtain ⟨ts, hscan, h⟩ := Option.bind_eq_some_iff.mp h
  rw [Json.ofTokens?] at h
  split at h
  · rename_i v hread
    obtain rfl := Option.some.inj h
    exact JsonState.valid_foldlM (s := JsonState.start) trivial (JsonToken.fits_scanAll hscan) hread
  · cases h

end Worksheet
