import Worksheet.Context.Json
import Worksheet.Proofs.Context.Values
import Worksheet.Proofs.Json.Codec
import Worksheet.Proofs.Outcome

/- Worksheet Contexts as JSON — a context is read back from its text.

   Values and errors have different trees and each tree gives back what it is the tree
   of, so the text of a context gives back the context with each number read as it is on
   its own (`Context.ofText?_write`). If the codec keeps the numbers of the context, it is
   given back as it was (`Context.ofText?_toJson`). -/
namespace Worksheet

namespace Value

variable {f : Float → Json}

mutual
theorem ofJson?_mapDecimals : ∀ v : Value,
    ofJson? (v.toJson.mapDecimals f) = v.mapNumbers? fun x => ofJson? (f x)
  | null | bool _ | text _ | number _ => rfl
  | list items => by
    rw [toJson, Json.mapDecimals, ofJson?, ofJsonAll?_mapDecimalsAll, mapNumbers?]

theorem ofJsonAll?_mapDecimalsAll : ∀ vs : List Value,
    ofJsonAll? (Json.mapDecimalsAll f (toJsonAll vs)) = mapNumbersAll? (fun x => ofJson? (f x)) vs
  | [] => rfl
  | v :: vs => by
    rw [toJsonAll, Json.mapDecimalsAll, ofJsonAll?, ofJson?_mapDecimals, ofJsonAll?_mapDecimalsAll,
      mapNumbersAll?]
end

mutual
theorem writable_toJson : ∀ v : Value, v.toJson.Writable
  | null | bool _ | text _ | number _ => trivial
  | list items => writableAll_toJsonAll items

theorem writableAll_toJsonAll : ∀ vs : List Value, Json.WritableAll (toJsonAll vs)
  | [] => trivial
  | v :: vs => ⟨writable_toJson v, writableAll_toJsonAll vs⟩
end

mutual
theorem nesting_toJson : ∀ v : Value, v.toJson.nesting = v.nesting
  | null | bool _ | text _ | number _ => rfl
  | list items => congrArg (· + 1) (nestingAll_toJsonAll items)

theorem nestingAll_toJsonAll :
    ∀ vs : List Value, Json.nestingAll (toJsonAll vs) = nestingAll vs
  | [] => rfl
  | v :: vs => congrArg₂ max (nesting_toJson v) (nestingAll_toJsonAll vs)
end

end Value

namespace Entry

/-- An entry with another value in place of each number, if there is one for each. -/
def mapNumbers? (f : Float → Option Value) : Entry → Option Entry
  | .ok v => (v.mapNumbers? f).map .ok
  | .error e => some (.error e)

/-- A value is read back as a value and an error as an error. -/
theorem ofJson?_mapDecimals {f : Float → Json} (hf : ∀ x members, f x ≠ .object members)
    (e : Entry) : ofJson? ((toJson e).mapDecimals f) = mapNumbers? (fun x => Value.ofJson? (f x)) e := by
  cases e with
  | error e => cases e <;> rfl
  | ok v =>
    rw [toJson, mapNumbers?, ← Value.ofJson?_mapDecimals]
    -- The tree of a value is no object, so it is not looked at for an error.
    cases v with
    | number x =>
      rw [Value.toJson, Json.mapDecimals]
      have hx := hf x
      cases h : f x with
      | object members => exact absurd h (hx members)
      | _ => rfl
    | _ => rfl

end Entry

namespace Context

variable {c : Context} {codec : JsonCodec} {style : JsonStyle} {f : Float → Option Value}

/-- A context with another value in place of each number, if there is one for each. -/
def mapNumbers? (f : Float → Option Value) (c : Context) : Option Context :=
  (c.toList.mapM fun m => (Entry.mapNumbers? f m.2).map fun e => (m.1, e)).map ofList

/-- The entries are replaced one by one. -/
theorem mapNumbers?_eq_some {d : Context}
    (h : ∀ name, (c.get? name).map (Entry.mapNumbers? f) = (d.get? name).map some) :
    c.mapNumbers? f = some d := by
  have hentry : ∀ m ∈ c.toList, ∃ e, Entry.mapNumbers? f m.2 = some e ∧ d.get? m.1 = some e := by
    rintro ⟨name, e⟩ hm
    have hname := h name
    rw [mem_toList.mp hm] at hname
    obtain ⟨e', he', heq⟩ := Option.map_eq_some_iff.mp hname.symm
    exact ⟨e', heq.symm, he'⟩
  have hmap : c.toList.mapM (fun m => (Entry.mapNumbers? f m.2).map fun e => (m.1, e)) =
      some (c.toList.map fun m => (m.1, (d.get? m.1).getD m.2)) := by
    refine mapM_eq_some fun m hm => ?_
    obtain ⟨e, he, hd⟩ := hentry m hm
    rw [he, hd]
    rfl
  rw [mapNumbers?, hmap, Option.map_some]
  refine congrArg some (ext fun name => ?_)
  cases hget : c.get? name with
  | some e =>
    obtain ⟨e', -, hd⟩ := hentry (name, e) (mem_toList.mpr hget)
    rw [hd]
    refine get?_insertAll_of_mem ?_ (List.mem_map.mpr ⟨(name, e), mem_toList.mpr hget, ?_⟩)
    · refine List.pairwise_map.mpr (Std.ExtTreeMap.distinct_keys_toList.imp fun hab heq => ?_)
      exact hab (Std.LawfulEqCmp.compare_eq_iff_eq.mpr heq)
    · rw [hd, Option.getD_some]
  | none =>
    have hname := h name
    rw [hget] at hname
    rw [Option.map_eq_none_iff.mp hname.symm, ofList, get?_insertAll_of_forall_ne, get?_empty]
    rintro _ hm rfl
    obtain ⟨⟨name, e⟩, hmem, rfl⟩ := List.mem_map.mp hm
    rw [mem_toList.mp hmem] at hget
    cases hget

theorem mapNumbers?_eq_self
    (h : c.AllValues (Value.AllNumbers fun x => f x = some (.number x))) :
    c.mapNumbers? f = some c := by
  refine mapNumbers?_eq_some fun name => ?_
  cases hget : c.get? name with
  | none => rfl
  | some e =>
    cases e with
    | error e => rfl
    | ok v =>
      refine congrArg some ?_
      rw [Entry.mapNumbers?, Value.mapNumbers?_eq_self (h name v hget)]
      rfl

/-! ## Reading what was written -/

theorem ofJson?_mapDecimals {f : Float → Json} (hf : ∀ x members, f x ≠ .object members)
    (c : Context) :
    ofJson? (c.toJson.mapDecimals f) = c.mapNumbers? fun x => Value.ofJson? (f x) := by
  rw [toJson, Json.mapDecimals, ofJson?, Json.mapDecimalsMembers_eq_map, List.map_map,
    List.mapM_map, mapNumbers?]
  refine congrArg (fun entry => Option.map ofList (c.toList.mapM entry)) (funext fun m => ?_)
  exact congrArg (Option.map fun e => (m.1, e)) (Entry.ofJson?_mapDecimals hf m.2)

theorem writable_toJson (c : Context) : c.toJson.Writable := by
  refine Json.writableMembers_iff.mpr fun m hm => ?_
  obtain ⟨⟨name, e⟩, -, rfl⟩ := List.mem_map.mp hm
  cases e with
  | ok v => exact Value.writable_toJson v
  | error e => exact ⟨trivial, trivial⟩

theorem nesting_toJson (h : c.AllValues fun v => v.nesting < Json.nestingLimit) :
    c.toJson.nesting ≤ Json.nestingLimit := by
  refine Nat.succ_le_of_lt (Nat.lt_of_le_pred (by decide) (Json.nestingMembers_le_iff.mpr ?_))
  intro m hm
  obtain ⟨⟨name, e⟩, he, rfl⟩ := List.mem_map.mp hm
  cases e with
  | ok v =>
    have hv := h name v (mem_toList.mp he)
    exact Nat.le_pred_of_lt ((Value.nesting_toJson v).trans_lt hv)
  | error e => exact show 1 ≤ Json.nestingLimit.pred by decide

/-- The value that is read of the text of a number, if one is. -/
def rereadNumber? (codec : JsonCodec) (style : JsonStyle) (x : Float) : Option Value :=
  Value.ofJson? (codec.reread style x)

theorem ofText?_of_reads (hcodec : codec.Lawful) {text : String}
    (h : codec.read text = some (c.toJson.mapDecimals (codec.reread style))) :
    ofText? codec text = c.mapNumbers? (rereadNumber? codec style) := by
  have hobject : ∀ x members, codec.reread style x ≠ .object members := by
    intro x members hx
    have hcases := hcodec.reread_cases style x
    simp [hx] at hcases
  rw [ofText?, h]
  exact ofJson?_mapDecimals hobject c

/-- What is read back is the context with each number read as it is on its own. -/
theorem ofText?_write (hcodec : codec.Lawful)
    (hnesting : c.AllValues fun v => v.nesting < Json.nestingLimit) (style : JsonStyle) :
    ofText? codec (codec.write style c.toJson) = c.mapNumbers? (rereadNumber? codec style) :=
  ofText?_of_reads hcodec (hcodec.reads style _ (writable_toJson c) (nesting_toJson hnesting))

theorem rereadNumber?_of_not_finite (hcodec : codec.Lawful) {x : Float} (hx : x.isFinite = false) :
    rereadNumber? codec style x = some .null := by
  rw [rereadNumber?, hcodec.reread_of_not_finite hx]
  rfl

theorem rereadNumber?_of_keeps {x : Float} (h : codec.Keeps x) :
    rereadNumber? codec style x = some (.number x) := by
  rw [rereadNumber?, h.reread]
  rfl

theorem mapNumbers?_of_keeps (h : c.AllValues (Value.AllNumbers codec.Keeps)) :
    c.mapNumbers? (rereadNumber? codec style) = some c :=
  mapNumbers?_eq_self (h.mono fun _ hv => hv.mono fun _ hx => rereadNumber?_of_keeps hx)

/-- For every lawful codec and every context whose numbers the codec keeps, at any depth, and
whose lists are nested less deep than the reader goes: the context is read back from its
text, written either way. A codec that keeps all finite numbers so gives back every context
with finite numbers only. -/
theorem ofText?_toJson (hcodec : codec.Lawful)
    (hkeeps : c.AllValues (Value.AllNumbers codec.Keeps))
    (hnesting : c.AllValues fun v => v.nesting < Json.nestingLimit) (style : JsonStyle) :
    ofText? codec (codec.write style c.toJson) = some c :=
  (ofText?_write hcodec hnesting style).trans (mapNumbers?_of_keeps hkeeps)

/-- A list that looks like an error stays a list, an error that is called `null` stays an
error, and a zero keeps its sign. -/
theorem ofText?_toJson_lookalikes :
    let c : Context := (((∅ : Context).set "a" (.list [.text "error", .text "#REF!"])).set "b"
      (.list [.list [.null, .number (-0)], .number 2.5])).insert "null" (.error .unresolved)
    ofText? .standard (JsonCodec.standard.write .pretty c.toJson) = some c := by
  exact ofText?_toJson JsonCodec.lawful_standard (by decide +kernel) (by decide +kernel) .pretty

end Context

end Worksheet
