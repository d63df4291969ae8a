import Worksheet.Json.Reader
import Worksheet.Proofs.Json.Scan

/- Worksheet JSON Reading — a tree is read back from its text.

   The reader puts a tree where its tokens start, whatever containers are open
   (`JsonState.leads_tokens`), so a tree that is not nested too deeply is read back from
   its text, written either way, as far as text can show it (`Json.readWith_compact`,
   `Json.readWith_pretty`). -/
namespace Worksheet

namespace Json

/-! ## Nesting -/

mutual
/-- How deep the containers of a tree are nested. -/
def nesting : Json → Nat
  | array items => nestingAll items + 1
  | object members => nestingMembers members + 1
  | _ => 0

def nestingAll : List Json → Nat
  | [] => 0
  | j :: js => max j.nesting (nestingAll js)

def nestingMembers : List (String × Json) → Nat
  | [] => 0
  | (_, j) :: ms => max j.nesting (nestingMembers ms)
end

@[simp] theorem nesting_ofText? (o : Option String) : (ofText? o).nesting = 0 := by
  cases o <;> rfl

@[simp] theorem nesting_ofNumber? (o : Option Float) : (ofNumber? o).nesting = 0 := by
  cases o <;> rfl

@[simp] theorem nesting_ofNat? (o : Option Nat) : (ofNat? o).nesting = 0 := by
  cases o <;> rfl

theorem nestingAll_le_iff {js : List Json} {n : Nat} :
    nestingAll js ≤ n ↔ ∀ j ∈ js, j.nesting ≤ n := by
  induction js with
  | nil => simp [nestingAll]
  | cons j js ih => simp [nestingAll, ih]

theorem nestingMembers_le_iff {ms : List (String × Json)} {n : Nat} :
    nestingMembers ms ≤ n ↔ ∀ m ∈ ms, m.2.nesting ≤ n := by
  induction ms with
  | nil => simp [nestingMembers]
  | cons m ms ih => simp [nestingMembers, ih]

theorem nestingMembers_append (ms ns : List (String × Json)) :
    nestingMembers (ms ++ ns) = max (nestingMembers ms) (nestingMembers ns) := by
  induction ms with
  | nil => simp [nestingMembers]
  | cons m ms ih => simp [nestingMembers, ih, max_assoc]

section

variable {reading : NumeralReading}

theorem nesting_ofMagnitude (negative : Bool) (o : Option Float) :
    (JsonToken.ofMagnitude negative o).nesting = 0 := by
  rcases JsonToken.ofMagnitude_cases negative o with h | ⟨x, -, h⟩ <;> rw [h] <;> rfl

theorem nesting_reread {x : Float} (hx : x.isFinite = true) :
    (JsonToken.reread reading x).nesting = 0 := by
  rcases JsonToken.reread_cases reading hx with h | ⟨y, -, h⟩ <;> rw [h] <;> rfl

mutual
theorem nesting_shown : ∀ j : Json, (j.shown reading).nesting = j.nesting
  | null | bool _ | text _ | unreadable => rfl
  | integer n => by
    rw [shown, JsonToken.ofInteger]
    split
    · rfl
    · exact nesting_ofMagnitude _ _
  | decimal x => by
    rw [shown]
    split
    · exact nesting_reread ‹_›
    · rfl
  | array items => congrArg (· + 1) (nestingAll_shown items)
  | object members => congrArg (· + 1) (nestingMembers_shown members)

theorem nestingAll_shown : ∀ js : List Json, nestingAll (shownAll reading js) = nestingAll js
  | [] => rfl
  | j :: js => congrArg₂ max (nesting_shown j) (nestingAll_shown js)

theorem nestingMembers_shown :
    ∀ ms : List (String × Json), nestingMembers (shownMembers reading ms) = nestingMembers ms
  | [] => rfl
  | (_, j) :: ms => congrArg₂ max (nesting_shown j) (nestingMembers_shown ms)
end

end

end Json

namespace JsonState

variable {want : JsonWant} {frames : List JsonFrame}

/-- A value may come next. -/
def OpensValue (want : JsonWant) : Prop := want = .value ∨ want = .valueOrClose

/-- A name may come next. -/
def OpensName (want : JsonWant) : Prop := want = .name ∨ want = .nameOrClose

/-! ## Tokens of a tree -/

theorem step_scalar (h : OpensValue want) (v : Json) :
    step (reading want frames) (.scalar v) = some (put v frames) := by
  rcases h with rfl | rfl <;> rcases frames with _ | ⟨_ | _, _⟩ <;> rfl

theorem step_string (h : OpensValue want) (s : String) :
    step (reading want frames) (.string (some s)) = some (put (.text s) frames) := by
  rcases h with rfl | rfl <;> rcases frames with _ | ⟨_ | _, _⟩ <;> rfl

theorem step_arrayOpen (h : OpensValue want) :
    step (reading want frames) .arrayOpen = some (reading .valueOrClose (.array [] :: frames)) := by
  rcases h with rfl | rfl <;> rcases frames with _ | ⟨_ | _, _⟩ <;> rfl

theorem step_objectOpen (h : OpensValue want) :
    step (reading want frames) .objectOpen =
      some (reading .nameOrClose (.object [] none :: frames)) := by
  rcases h with rfl | rfl <;> rcases frames with _ | ⟨_ | _, _⟩ <;> rfl

theorem step_name (h : OpensName want) {members : List (Option String × Json)}
    {name : Option String} (s : String) :
    step (reading want (.object members name :: frames)) (.string (some s)) =
      some (reading .colon (.object members (some s) :: frames)) := by
  rcases h with rfl | rfl <;> rfl

theorem close_array {items : List Json} (h : frames.length < Json.nestingLimit) :
    close (.array items.reverse) frames = put (.array items) frames := by
  rw [close, if_neg (not_le.mpr h), closed, List.reverse_reverse]

/-- The members of an open object, last first. -/
def held (ms : List (String × Json)) : List (Option String × Json) :=
  (ms.map fun m => (some m.1, m.2)).reverse

theorem close_object {ms : List (String × Json)} {name : Option String}
    (h : frames.length < Json.nestingLimit) :
    close (.object (held ms) name) frames = put (.object ms) frames := by
  have hnames : (held ms).reverse.mapM (fun m => m.1.map (·, m.2)) = some ms := by
    rw [held, List.reverse_reverse]
    induction ms with
    | nil => rfl
    | cons m ms ih => simp_all
  rw [close, if_neg (not_le.mpr h), closed, hnames]

/-- The tokens lead the reader from one state to another. -/
def Leads (s : JsonState) (ts : List JsonToken) (s' : JsonState) : Prop :=
  ts.foldlM step s = some s'

section Leads

variable {s s₁ s' : JsonState} {t : JsonToken} {ts us : List JsonToken}

theorem Leads.single (h : step s t = some s') : Leads s [t] s' := by
  rw [Leads, List.foldlM_cons, h]
  rfl

theorem Leads.cons (h : step s t = some s₁) (hs : Leads s₁ ts s') : Leads s (t :: ts) s' := by
  rw [Leads, List.foldlM_cons, h]
  exact hs

theorem Leads.append (h : Leads s ts s₁) (hs : Leads s₁ us s') : Leads s (ts ++ us) s' := by
  rw [Leads, List.foldlM_append, h]
  exact hs

end Leads

mutual
/-- The reader takes the tokens of a tree for the tree, wherever it may stand. The containers
around it stay as they are, and are counted for the nesting only. -/
theorem leads_tokens : ∀ (j : Json) (frames : List JsonFrame) {want : JsonWant},
    OpensValue want → frames.length + j.nesting ≤ Json.nestingLimit →
      Leads (reading want frames) j.tokens (put j frames)
  | .text s, _, _, hw, _ => .single (step_string hw s)
  | .array items, _, _, hw, hn => by
    rw [Json.nesting] at hn
    have hitems := leads_itemTokens items [] _ (.inr rfl) (fun _ => rfl) (by omega)
    rw [List.append_nil, close_array (by omega)] at hitems
    exact .cons (step_arrayOpen hw) hitems
  | .object members, _, _, hw, hn => by
    rw [Json.nesting] at hn
    have hmembers := leads_memberTokens members [] _ (.inr rfl) (fun _ => rfl) (by omega)
    rw [List.append_nil, close_object (by omega)] at hmembers
    exact .cons (step_objectOpen hw) hmembers
  | .null, _, _, hw, _ => .single (step_scalar hw .null)
  | .bool b, _, _, hw, _ => .single (step_scalar hw (.bool b))
  | .integer n, _, _, hw, _ => .single (step_scalar hw (.integer n))
  | .decimal x, _, _, hw, _ => .single (step_scalar hw (.decimal x))
  | .unreadable, _, _, hw, _ => .single (step_scalar hw .unreadable)

theorem leads_itemTokens : ∀ (js acc : List Json) (frames : List JsonFrame) {want : JsonWant},
    OpensValue want → (js = [] → want = .valueOrClose) →
      frames.length + (Json.nestingAll js + 1) ≤ Json.nestingLimit →
        Leads (reading want (.array acc :: frames)) (Json.itemTokens js ++ [.arrayClose])
          (close (.array (js.reverse ++ acc)) frames)
  | [], acc, _, _, _, hend, _ => by
    obtain rfl := hend rfl
    exact .single rfl
  | [j], acc, frames, _, hw, _, hn => by
    rw [Json.nestingAll, Json.nestingAll] at hn
    exact (leads_tokens j _ hw (by rw [List.length_cons]; omega)).append (.single rfl)
  | j :: k :: js, acc, frames, _, hw, _, hn => by
    rw [Json.nestingAll] at hn
    have hj := leads_tokens j (.array acc :: frames) hw (by rw [List.length_cons]; omega)
    have hjs := leads_itemTokens (k :: js) (j :: acc) frames (.inl rfl) nofun (by omega)
    rw [List.reverse_cons, List.append_assoc, List.singleton_append, Json.itemTokens,
      List.append_assoc, List.cons_append]
    · exact hj.append (.cons rfl hjs)
    · exact nofun

theorem leads_memberTokens : ∀ (ms : List (String × Json)) (acc : List (Option String × Json))
    (frames : List JsonFrame) {want : JsonWant},
    OpensName want → (ms = [] → want = .nameOrClose) →
      frames.length + (Json.nestingMembers ms + 1) ≤ Json.nestingLimit →
        Leads (reading want (.object acc none :: frames))
          (Json.memberTokens ms ++ [.objectClose]) (close (.object (held ms ++ acc) none) frames)
  | [], acc, _, _, _, hend, _ => by
    obtain rfl := hend rfl
    exact .single rfl
  | [(name, j)], acc, frames, _, hw, _, hn => by
    rw [Json.nestingMembers, Json.nestingMembers] at hn
    have hj := leads_tokens j (.object acc (some name) :: frames) (.inl rfl)
      (by rw [List.length_cons]; omega)
    exact .cons (step_name hw name) (.cons rfl (hj.append (.single rfl)))
  | (name, j) :: m :: ms, acc, frames, _, hw, _, hn => by
    rw [Json.nestingMembers] at hn
    have hj := leads_tokens j (.object acc (some name) :: frames) (.inl rfl)
      (by rw [List.length_cons]; omega)
    have hms := leads_memberTokens (m :: ms) ((some name, j) :: acc) frames (.inl rfl)
      nofun (by omega)
    rw [held, List.map_cons, List.reverse_cons, List.append_assoc, List.singleton_append,
      Json.memberTokens, List.cons_append, List.cons_append, List.append_assoc, List.cons_append]
    · exact .cons (step_name hw name) (.cons rfl (hj.append (.cons rfl hms)))
    · exact nofun
end

end JsonState

namespace Json

variable {reading : NumeralReading}

theorem ofTokens?_tokens {j : Json} (h : j.nesting ≤ Json.nestingLimit) :
    ofTokens? j.tokens = some j := by
  have hleads : JsonState.start.Leads j.tokens (.complete j) :=
    JsonState.leads_tokens j [] (.inl rfl) (by simpa using h)
  rw [ofTokens?, hleads]

theorem readWith_of_scanAll {text : String} {j : Json}
    (hscan : JsonToken.scanAll reading 0 text.toList = some (j.shown reading).tokens)
    (h : j.nesting ≤ nestingLimit) : readWith reading text = some (j.shown reading) := by
  rw [readWith, hscan]
  exact ofTokens?_tokens ((nesting_shown j).trans_le h)

theorem readWith_compact {j : Json} (h : j.nesting ≤ nestingLimit) :
    readWith reading j.compact = some (j.shown reading) := by
  refine readWith_of_scanAll ?_ h
  rw [compact, String.toList_ofList]
  exact (JsonToken.spellsAll_tokens j).scanAll

theorem readWith_pretty {j : Json} (h : j.nesting ≤ nestingLimit) :
    readWith reading j.pretty = some (j.shown reading) := by
  refine readWith_of_scanAll ?_ h
  rw [pretty, String.toList_ofList]
  exact (JsonToken.spellsAll_lines 0 j).scanAll

/-- A tree may be followed by a line end. -/
theorem readWith_line {text : String} {j : Json}
    (h : JsonToken.SpellsAll reading text.toList (j.shown reading).tokens) :
    readWith reading (text ++ "\n") = readWith reading text := by
  rw [readWith, readWith, String.toList_append, h.scanAll]
  exact congrArg (·.bind ofTokens?) h.scanAll_line

end Json

end Worksheet
