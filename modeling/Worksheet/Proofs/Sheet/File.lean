import Worksheet.Proofs.Context.Values
import Worksheet.Proofs.Field.Binding
import Worksheet.Proofs.Field.Json
import Worksheet.Proofs.Json.Codec
import Worksheet.Proofs.Sheet.Values
import Worksheet.Sheet.File

/- Worksheet Files — what a file that is read can hold.

   The values and the defaults of a file are finite, and its lists are nested less deep
   than the reader goes, for the file has containers around them (`SheetFile.held_of_ofText?`). -/
namespace Worksheet

namespace Value

mutual
/-- A value is nested as its tree is, and has no numbers but those of the tree. -/
theorem read_ofJson? : ∀ {j : Json} {v : Value}, ofJson? j = some v →
    v.nesting = j.nesting ∧ (j.Sound → v.Finite)
  | .null, _, h => by
    cases h
    exact ⟨rfl, fun _ => finite_null⟩
  | .bool b, _, h => by
    cases h
    exact ⟨rfl, fun _ => finite_bool b⟩
  | .integer n, _, h => by
    cases h
    exact ⟨rfl, fun hj => finite_number.mpr (Json.isFinite_of_number? hj rfl)⟩
  | .decimal x, _, h => by
    cases h
    exact ⟨rfl, finite_number.mpr⟩
  | .text s, _, h => by
    cases h
    exact ⟨rfl, fun _ => finite_text s⟩
  | .array items, _, h => by
    obtain ⟨vs, hvs, rfl⟩ := Option.map_eq_some_iff.mp h
    obtain ⟨hnesting, hfinite⟩ := read_ofJsonAll? hvs
    exact ⟨congrArg (· + 1) hnesting, fun hj => finite_list.mpr (hfinite hj)⟩
  | .object _, _, h | .unreadable, _, h => nomatch h

theorem read_ofJsonAll? : ∀ {js : List Json} {vs : List Value}, ofJsonAll? js = some vs →
    nestingAll vs = Json.nestingAll js ∧ (Json.SoundAll js → ∀ v ∈ vs, v.Finite)
  | [], _, h => by
    cases h
    exact ⟨rfl, fun _ => List.forall_mem_nil _⟩
  | j :: js, _, h => by
    obtain ⟨v, hv, h⟩ := Option.bind_eq_some_iff.mp h
    obtain ⟨vs, hvs, h⟩ := Option.bind_eq_some_iff.mp h
    cases h
    obtain ⟨hnesting, hfinite⟩ := read_ofJson? hv
    obtain ⟨hnestings, hfinites⟩ := read_ofJsonAll? hvs
    exact ⟨congrArg₂ max hnesting hnestings,
      fun hjs => List.forall_mem_cons.mpr ⟨hfinite hjs.1, hfinites hjs.2⟩⟩
end

end Value

namespace Field

/-- A default is no list. -/
theorem nesting_default? {f : Field} {v : Value} (h : f.default? = some v) : v.nesting = 0 := by
  cases f with
  | frame info children =>
    cases h
    rfl
  | item info content =>
    cases content with
    | formula expression => exact nomatch h
    | text default pattern maxLength | multilineText default maxLength
    | number default min max =>
      cases h
      cases default <;> rfl
    | label s | file accept | link url =>
      cases h
      rfl

/-- What the cell of a field starts from is no list. -/
theorem starts_nesting (f : Field) (n : Nat) : f.cell.Starts fun v => v.nesting ≤ n := by
  refine starts (fun _ _ => Nat.zero_le n) ?_
  cases hdefault : f.default? with
  | none => exact Nat.zero_le n
  | some v => exact (nesting_default? hdefault).trans_le (Nat.zero_le n)

theorem starts_finite {f : Field} (hf : f.FiniteDefault)
    (hliterals : ∀ x ∈ f.cell.literals, x.isFinite = true) : f.cell.Starts Value.Finite := by
  refine starts (fun x hx => Value.finite_number.mpr (hliterals x hx)) ?_
  cases hdefault : f.default? with
  | none => exact Value.finite_null
  | some v => exact hf v hdefault

end Field

namespace SheetFile

/-- What the fields and the values of a file have in common. -/
structure Held (file : SheetFile) : Prop where
  defaults : ∀ f ∈ Field.flattenAll file.fields, f.FiniteDefault
  values : ∀ e ∈ file.values, e.2.Finite ∧ e.2.nesting < Json.nestingLimit

theorem held_of_valuesOfJson? {j : Json} {n : Nat} {vs : List (String × Value)}
    (h : valuesOfJson? j = some vs) (hj : j.Fits n) :
    ∀ e ∈ vs, e.2.Finite ∧ e.2.nesting < n := by
  cases j with
  | object ms =>
    intro e he
    obtain ⟨m, hm, hread⟩ := exists_of_mem_mapM h he
    obtain ⟨v, hv, rfl⟩ := Option.map_eq_some_iff.mp hread
    obtain ⟨hnesting, hfinite⟩ := Value.read_ofJson? hv
    have hroom : m.2.nesting ≤ Json.nestingMembers ms :=
      Json.nestingMembers_le_iff.mp le_rfl m hm
    refine ⟨hfinite (Json.soundMembers_iff.mp hj.sound m hm), ?_⟩
    exact hnesting ▸ Nat.lt_of_le_of_lt hroom (Nat.lt_of_succ_le hj.nesting)
  | _ => exact nomatch h

/-- What is read from a text into a file. -/
theorem held_of_ofText? {codec : JsonCodec} (hcodec : codec.Lawful) {text : String}
    {file : SheetFile} (h : ofText? codec text = some file) : file.Held := by
  obtain ⟨j, hj, h⟩ := Option.bind_eq_some_iff.mp h
  have hfits : j.Fits Json.nestingLimit := hcodec.fits text j hj
  unfold ofJson? at h
  split at h
  · rename_i ms
    obtain ⟨found, hfound, h⟩ := Option.bind_eq_some_iff.mp h
    obtain ⟨fields, hfields, h⟩ := Option.bind_eq_some_iff.mp h
    obtain ⟨values, hvalues, h⟩ := Option.bind_eq_some_iff.mp h
    cases h
    obtain ⟨tree, rfl, hfields⟩ := Option.bind_eq_some_iff.mp hfields
    obtain ⟨name, htree⟩ := Field.mem_of_member? hfound
    have hmember : ∀ m ∈ ms, m.2.Fits Json.nestingLimit := hfits.of_mem_object
    refine ⟨Field.finiteDefault_flattenAll (hmember _ htree).sound hfields, ?_⟩
    rcases Field.property_cases hvalues with rfl | ⟨m, hm, hvalues⟩
    · exact List.forall_mem_nil _
    · exact held_of_valuesOfJson? hvalues (hmember m hm)
  · rename_i tree
    obtain ⟨fields, hfields, h⟩ := Option.bind_eq_some_iff.mp h
    cases h
    have htree := hfits.of_mem_array tree (List.mem_singleton_self tree)
    exact ⟨Field.finiteDefault_flattenAll htree.sound hfields, List.forall_mem_nil _⟩
  · rename_i tree values
    obtain ⟨fields, hfields, h⟩ := Option.bind_eq_some_iff.mp h
    obtain ⟨vs, hvalues, h⟩ := Option.bind_eq_some_iff.mp h
    cases h
    have hitem := hfits.of_mem_array
    exact ⟨Field.finiteDefault_flattenAll (hitem tree (by simp)).sound hfields,
      held_of_valuesOfJson? hvalues (hitem values (by simp))⟩
  · exact nomatch h

end SheetFile

end Worksheet
