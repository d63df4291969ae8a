import Worksheet.Field.Json
import Worksheet.Proofs.Field.Listing
import Worksheet.Proofs.Json.Sound
import Worksheet.Proofs.Number.Finite
import Worksheet.Proofs.Value

/- Worksheet Fields from JSON — the defaults of a template that is read.

   The numbers of a tree that is read from a text are finite, so every default of its
   fields is finite, however deep the field stands (`Field.finiteDefault_flattenAll`). -/
namespace Worksheet

theorem Json.isFinite_of_number? {j : Json} {x : Float} (hj : j.Sound) (h : j.number? = some x) :
    x.isFinite = true := by
  cases j with
  | integer n =>
    obtain rfl := Option.some.inj h
    have hsize : UInt64.size ≤ 2 ^ 64 := by decide
    have hj' : n.natAbs < 2 ^ 64 := lt_of_lt_of_le hj hsize
    exact Number.isFinite_floatOfInt (hj'.trans (pow_lt_pow_right₀ one_lt_two (by decide)))
  | decimal y =>
    obtain rfl := Option.some.inj h
    exact hj
  | _ => exact nomatch h

namespace Field

variable {ms : Members}

theorem mem_of_member? {names : List String} {j : Json} (h : member? ms names = some (some j)) :
    ∃ name, (name, j) ∈ ms := by
  rw [member?] at h
  split at h
  · exact nomatch h
  · rename_i name k hfilter
    obtain rfl := Option.some.inj (Option.some.inj h)
    exact ⟨name, List.mem_of_mem_filter (hfilter ▸ List.mem_singleton_self _)⟩
  · exact nomatch h

/-- A property that is read is that of a member, or it is the default. -/
theorem property_cases {α : Type} {name : String} {default a : α} {read : Json → Option α}
    (h : property ms name default read = some a) :
    a = default ∨ ∃ m ∈ ms, read m.2 = some a := by
  rw [property] at h
  obtain ⟨found, hfound, h⟩ := Option.bind_eq_some_iff.mp h
  cases found with
  | none => exact .inl (Option.some.inj h).symm
  | some j =>
    obtain ⟨name, hj⟩ := mem_of_member? hfound
    exact .inr ⟨_, hj, h⟩

/-- An optional number is finite. -/
theorem isFinite_of_optional (hms : Json.SoundMembers ms) {name : String} {x : Float}
    (h : optional ms name Json.number? = some (some x)) : x.isFinite = true := by
  rcases property_cases h with h | ⟨m, hm, h⟩
  · exact nomatch h
  · have hj := Json.soundMembers_iff.mp hms m hm
    split at h
    · exact nomatch h
    · obtain ⟨y, hy, heq⟩ := Option.map_eq_some_iff.mp h
      obtain rfl := Option.some.inj heq
      exact Json.isFinite_of_number? hj hy

/-- The default of a field is finite. -/
def FiniteDefault (f : Field) : Prop := ∀ v, f.default? = some v → v.Finite

theorem finiteDefault_item {info : FieldInfo} {content : Content}
    (h : ∀ x min max, content = .number (some x) min max → x.isFinite = true) :
    (item info content).FiniteDefault := by
  intro v hv
  cases content with
  | number default min max =>
    cases default with
    | none => exact Option.some.inj hv ▸ Value.finite_null
    | some x => exact Option.some.inj hv ▸ Value.finite_number.mpr (h x min max rfl)
  | text default pattern maxLength | multilineText default maxLength =>
    cases default with
    | none => exact Option.some.inj hv ▸ Value.finite_null
    | some s => exact Option.some.inj hv ▸ Value.finite_text s
  | formula expression => exact nomatch hv
  | file accept => exact Option.some.inj hv ▸ Value.finite_null
  | label s | link s => exact Option.some.inj hv ▸ Value.finite_text s

/-- Only a content of the kind of numbers has a number for its default. -/
theorem finiteDefault_contentOf (hms : Json.SoundMembers ms) {kind : String} {content : Content}
    (h : contentOf ms kind = some content) (info : FieldInfo) :
    (item info content).FiniteDefault := by
  refine finiteDefault_item ?_
  rintro x min max rfl
  unfold contentOf at h
  split at h
  case h_4 =>
    obtain ⟨default, hdefault, h⟩ := Option.bind_eq_some_iff.mp h
    obtain ⟨_, -, h⟩ := Option.bind_eq_some_iff.mp h
    obtain ⟨_, -, h⟩ := Option.bind_eq_some_iff.mp h
    cases h
    exact isFinite_of_optional hms hdefault
  all_goals simp [Option.bind_eq_some_iff] at h

mutual
/-- A field that is read, and every field inside it, has a finite default. -/
theorem finiteDefault_ofJson? : ∀ {j : Json} {f : Field}, j.Sound → ofJson? j = some f →
    ∀ g ∈ f.preorder, g.FiniteDefault
  | .object ms, f, hj, h => by
    rw [ofJson?] at h
    obtain ⟨-, -, h⟩ := Option.bind_eq_some_iff.mp h
    obtain ⟨info, -, h⟩ := Option.bind_eq_some_iff.mp h
    obtain ⟨tree, -, h⟩ := Option.bind_eq_some_iff.mp h
    obtain ⟨kind, -, h⟩ := Option.bind_eq_some_iff.mp h
    split at h
    · obtain ⟨_, -, h⟩ := Option.bind_eq_some_iff.mp h
      obtain ⟨children, hchildren, h⟩ := Option.bind_eq_some_iff.mp h
      cases h
      refine List.forall_mem_cons.mpr ⟨?_, finiteDefault_childrenOf? hj hchildren⟩
      exact fun v hv => Option.some.inj hv ▸ Value.finite_null
    · obtain ⟨content, hcontent, h⟩ := Option.bind_eq_some_iff.mp h
      cases h
      exact List.forall_mem_singleton.mpr (finiteDefault_contentOf hj hcontent info)
  | .null, _, _, h | .bool _, _, _, h | .integer _, _, _, h | .decimal _, _, _, h
  | .text _, _, _, h | .array _, _, _, h | .unreadable, _, _, h => nomatch h

theorem finiteDefault_childrenOf? : ∀ {ms : Members} {fs : List Field}, Json.SoundMembers ms →
    childrenOf? ms = some fs → ∀ g ∈ preorderAll fs, g.FiniteDefault
  | [], fs, _, h => by
    obtain rfl := Option.some.inj h
    exact List.forall_mem_nil _
  | (name, j) :: ms, fs, hms, h => by
    rw [childrenOf?] at h
    split at h
    · exact finiteDefault_listOfJson? hms.1 h
    · exact finiteDefault_childrenOf? hms.2 h

theorem finiteDefault_listOfJson? : ∀ {j : Json} {fs : List Field}, j.Sound →
    listOfJson? j = some fs → ∀ g ∈ preorderAll fs, g.FiniteDefault
  | .array _, _, hj, h => finiteDefault_ofJsonAll? hj h
  | .null, _, _, h | .bool _, _, _, h | .integer _, _, _, h | .decimal _, _, _, h
  | .text _, _, _, h | .object _, _, _, h | .unreadable, _, _, h => nomatch h

theorem finiteDefault_ofJsonAll? : ∀ {js : List Json} {fs : List Field}, Json.SoundAll js →
    ofJsonAll? js = some fs → ∀ g ∈ preorderAll fs, g.FiniteDefault
  | [], fs, _, h => by
    obtain rfl := Option.some.inj h
    exact List.forall_mem_nil _
  | j :: js, fs, hjs, h => by
    rw [ofJsonAll?] at h
    obtain ⟨f, hf, h⟩ := Option.bind_eq_some_iff.mp h
    obtain ⟨gs, hgs, h⟩ := Option.bind_eq_some_iff.mp h
    cases h
    exact List.forall_mem_append.mpr
      ⟨finiteDefault_ofJson? hjs.1 hf, finiteDefault_ofJsonAll? hjs.2 hgs⟩
end

/-- The fields of a template that is read have finite defaults. -/
theorem finiteDefault_flattenAll {j : Json} {fs : List Field} (hj : j.Sound)
    (h : listOfJson? j = some fs) : ∀ f ∈ flattenAll fs, f.FiniteDefault := by
  rw [flattenAll_eq]
  exact finiteDefault_listOfJson? hj h

end Field

end Worksheet
