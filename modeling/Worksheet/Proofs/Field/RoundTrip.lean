import Worksheet.Field.Json
import Worksheet.Proofs.Json.Codec

/- Worksheet Fields as JSON — a template is read back from its text.

   The properties of a kind stand beside the members of every field, under names of their
   own (`Field.Apart`), so whatever is written under a name is the one thing that is found
   under it (`Field.member?_of_mem`). With this the parts of a field are read back one by
   one, and a frame by induction over what is inside it (`Field.ofJson?_toJson`). The text
   of a template spells out its tree if its numbers are kept (`Field.mapDecimals_toJson`),
   and each frame adds two containers to the nesting of the tree, which is what limits how
   deep frames can be nested (`Field.nesting_toJson`). -/
namespace Worksheet

/-! ## What text has room for -/

/-- The numbers of a geometry satisfy a condition. -/
structure Geometry.AllNumbers (p : Float → Prop) (g : Geometry) : Prop where
  x : p g.x
  y : p g.y
  width : p g.width
  height : p g.height

/-- The numbers of a content satisfy a condition, and its counts have at most 64 bits, as
counts do that are read. -/
def Content.Portable (p : Float → Prop) : Content → Prop
  | number default min max => (∀ x ∈ default, p x) ∧ (∀ x ∈ min, p x) ∧ ∀ x ∈ max, p x
  | text _ _ maxLength | multilineText _ maxLength => ∀ n ∈ maxLength, n < UInt64.size
  | label _ | formula _ | file _ | link _ => True

namespace Field

mutual
/-- The numbers of a field and of those inside it satisfy a condition, and their counts have
at most 64 bits. -/
def Portable (p : Float → Prop) : Field → Prop
  | item info content => info.geometry.AllNumbers p ∧ content.Portable p
  | frame info children => info.geometry.AllNumbers p ∧ PortableAll p children

def PortableAll (p : Float → Prop) : List Field → Prop
  | [] => True
  | f :: fs => f.Portable p ∧ PortableAll p fs
end

mutual
/-- How many frames stand around each other in a field. -/
def frameDepth : Field → Nat
  | item _ _ => 0
  | frame _ children => frameDepthAll children + 1

def frameDepthAll : List Field → Nat
  | [] => 0
  | f :: fs => max f.frameDepth (frameDepthAll fs)
end

variable {p : Float → Prop} {ms ps : Members} {name kind : String} {j : Json} {info : FieldInfo}

/-! ## Members by name -/

theorem filter_name (hnodup : (ms.map Prod.fst).Nodup) (hm : (name, j) ∈ ms) :
    ms.filter (·.1 = name) = [(name, j)] := by
  induction ms with
  | nil => exact nomatch hm
  | cons m ms ih =>
    obtain ⟨hnew, hnodup⟩ := List.nodup_cons.mp hnodup
    rcases List.mem_cons.mp hm with rfl | hm
    · rw [List.filter_cons_of_pos (by simp), List.filter_eq_nil_iff.mpr]
      intro m hm heq
      exact hnew (List.mem_map.mpr ⟨m, hm, of_decide_eq_true heq⟩)
    · rw [List.filter_cons_of_neg, ih hnodup hm]
      intro heq
      exact hnew (List.mem_map.mpr ⟨(name, j), hm, (of_decide_eq_true heq).symm⟩)

/-- Among members with different names, one is found by any of several names if only its
own is used. -/
theorem member?_of_mem {names : List String} (hnodup : (ms.map Prod.fst).Nodup)
    (hm : (name, j) ∈ ms) (hnames : ∀ m ∈ ms, m.1 ∈ names ↔ m.1 = name) :
    member? ms names = some (some j) := by
  have hfilter : ms.filter (names.contains ·.1) = ms.filter (·.1 = name) :=
    List.filter_congr fun m hm => by simp [hnames m hm]
  rw [member?, hfilter, filter_name hnodup hm]

theorem member?_single (hnodup : (ms.map Prod.fst).Nodup) (hm : (name, j) ∈ ms) :
    member? ms [name] = some (some j) :=
  member?_of_mem hnodup hm fun _ _ => List.mem_singleton

theorem property_of_member {α : Type} {default : α} {read : Json → Option α}
    (h : member? ms [name] = some (some j)) : property ms name default read = read j := by
  rw [property, h]
  rfl

section Optional

variable {α : Type} {read : Json → Option α}

theorem optional_of_null (h : member? ms [name] = some (some .null)) :
    optional ms name read = some none := property_of_member h

/-- A property that is there is not taken for one that is missing, as long as `null` is not
among what can be read. -/
theorem optional_of_read {a : α} (h : member? ms [name] = some (some j)) (hj : read j = some a)
    (hnull : read .null = none) : optional ms name read = some (some a) := by
  rw [optional, property_of_member h]
  split
  · exact nomatch hnull.symm.trans hj
  · rw [hj]
    rfl

theorem optional_ofText? {o : Option String} (h : member? ms [name] = some (some (.ofText? o))) :
    optional ms name Json.text? = some o := by
  cases o with
  | none => exact optional_of_null h
  | some s => exact optional_of_read h rfl rfl

theorem optional_ofNumber? {o : Option Float}
    (h : member? ms [name] = some (some (.ofNumber? o))) :
    optional ms name Json.number? = some o := by
  cases o with
  | none => exact optional_of_null h
  | some x => exact optional_of_read h rfl rfl

theorem optional_ofNat? {o : Option Nat} (h : member? ms [name] = some (some (.ofNat? o)))
    (hsize : ∀ n ∈ o, n < UInt64.size) : optional ms name countOf = some o := by
  cases o with
  | none => exact optional_of_null h
  | some n =>
    have hcount : countOf (.ofNat? (some n)) = some n := if_pos (hsize n rfl)
    exact optional_of_read h hcount rfl

end Optional

/-! ## The members of a field -/

/-- Properties that can stand beside the members of every field. -/
structure Apart (ps : Members) : Prop where
  nodup : (ps.map Prod.fst).Nodup
  apart : ∀ m ∈ ps, m.1 ∉ "kind" :: commonNames

theorem apart_toMembers (c : Content) : Apart c.toMembers := by
  cases c <;> constructor <;> simp [Content.toMembers, commonNames]

theorem apart_children (j : Json) : Apart [("children", j)] := by
  constructor <;> simp [commonNames]

/-- The members of a field, in the order in which they are written. -/
def allMembers (info : FieldInfo) (kind : String) (ps : Members) : Members :=
  [("id", .text info.id), ("reference", .ofText? info.reference), ("kind", .text kind)] ++
    ps ++ [("geometry", info.geometry.toJson), ("visible", .bool info.visible)]

theorem membersOf_eq (info : FieldInfo) (kind : String) (ps : Members) :
    membersOf info kind ps = .object (allMembers info kind ps) := rfl

theorem nodup_allMembers (hps : Apart ps) : ((allMembers info kind ps).map Prod.fst).Nodup := by
  have hsub : ["geometry", "visible", "id", "reference", "kind"] ⊆ "kind" :: commonNames := by
    decide
  rw [allMembers, List.map_append, List.map_append, List.nodup_append_comm, ← List.append_assoc]
  refine List.Nodup.append (by simp) hps.nodup fun s hs hp => ?_
  obtain ⟨m, hm, rfl⟩ := List.mem_map.mp hp
  exact hps.apart m hm (hsub hs)

theorem member?_property (hps : Apart ps) (hm : (name, j) ∈ ps) :
    member? (allMembers info kind ps) [name] = some (some j) :=
  member?_single (nodup_allMembers hps) (List.mem_append_left _ (List.mem_append_right _ hm))

/-- A field is never written with the short name of its reference. -/
theorem ne_ref_of_mem_allMembers (hps : Apart ps) :
    ∀ m ∈ allMembers info kind ps, m.1 ≠ "ref" := by
  have hprops : ∀ m ∈ ps, m.1 ≠ "ref" := fun m hm h => hps.apart m hm (by simp [h, commonNames])
  simpa [allMembers, or_imp, forall_and] using hprops

theorem geometryOf_toJson (g : Geometry) : geometryOf g.toJson = some g := rfl

theorem infoOfMembers_allMembers (hps : Apart ps) :
    infoOfMembers (allMembers info kind ps) = some info := by
  have hnodup : ((allMembers info kind ps).map Prod.fst).Nodup := nodup_allMembers hps
  have hid : member? (allMembers info kind ps) ["id"] = some (some (.text info.id)) :=
    member?_single hnodup List.mem_cons_self
  have hreference : member? (allMembers info kind ps) ["reference", "ref"] =
      some (some (.ofText? info.reference)) := by
    have hm : ("reference", .ofText? info.reference) ∈ allMembers info kind ps := by
      simp [allMembers]
    exact member?_of_mem hnodup hm fun m hm => by simp [ne_ref_of_mem_allMembers hps m hm]
  have hgeometry : member? (allMembers info kind ps) ["geometry"] =
      some (some info.geometry.toJson) := member?_single hnodup (by simp [allMembers])
  have hvisible : member? (allMembers info kind ps) ["visible"] =
      some (some (.bool info.visible)) := member?_single hnodup (by simp [allMembers])
  rw [infoOfMembers, hid, hreference, property_of_member hgeometry, property_of_member hvisible,
    geometryOf_toJson]
  cases info with
  | mk id reference geometry visible => cases reference <;> rfl

theorem kindMembers_allMembers (hps : Apart ps) :
    kindMembers (allMembers info kind ps) = ("kind", .text kind) :: ps := by
  have hfilter : ps.filter (fun m => !commonNames.contains m.1) = ps :=
    List.filter_eq_self.mpr fun m hm => by
      simpa using List.not_mem_of_not_mem_cons (hps.apart m hm)
  rw [kindMembers, allMembers, List.filter_append, List.filter_append, hfilter]
  exact congrArg (_ :: ·) (List.append_nil ps)

/-! ## Reading a field -/

/-- A content is read from members among which each of its properties is found. -/
theorem contentOf_toMembers {c : Content} (hc : c.Portable p)
    (h : ∀ m ∈ c.toMembers, member? ms [m.1] = some (some m.2)) :
    contentOf ms c.kind = some c := by
  cases c with
  | label s =>
    obtain ⟨htext, -⟩ := List.forall_mem_cons.mp h
    rw [Content.kind, contentOf, property_of_member htext]
    rfl
  | text default pattern maxLength =>
    simp only [Content.toMembers, List.forall_mem_cons] at h
    obtain ⟨hdefault, hpattern, hmax, -⟩ := h
    rw [Content.kind, contentOf, optional_ofText? hdefault, optional_ofText? hpattern,
      optional_ofNat? hmax hc]
    rfl
  | multilineText default maxLength =>
    simp only [Content.toMembers, List.forall_mem_cons] at h
    obtain ⟨hdefault, hmax, -⟩ := h
    rw [Content.kind, contentOf, optional_ofText? hdefault, optional_ofNat? hmax hc]
    rfl
  | number default min max =>
    simp only [Content.toMembers, List.forall_mem_cons] at h
    obtain ⟨hdefault, hmin, hmax, -⟩ := h
    rw [Content.kind, contentOf, optional_ofNumber? hdefault, optional_ofNumber? hmin,
      optional_ofNumber? hmax]
    rfl
  | formula expression =>
    obtain ⟨hexpression, -⟩ := List.forall_mem_cons.mp h
    rw [Content.kind, contentOf, hexpression]
    rfl
  | file accept =>
    obtain ⟨haccept, -⟩ := List.forall_mem_cons.mp h
    rw [Content.kind, contentOf, optional_ofText? haccept]
    rfl
  | link url =>
    obtain ⟨hurl, -⟩ := List.forall_mem_cons.mp h
    rw [Content.kind, contentOf, property_of_member hurl]
    rfl

theorem kind_mem_kinds (c : Content) : c.kind ∈ kinds := by
  cases c <;> simp [Content.kind, kinds]

theorem kind_ne_frame (c : Content) : c.kind ≠ "frame" := by
  cases c <;> simp [Content.kind]

theorem kindOf_text (h : kind ∈ kinds) : kindOf (.text kind) = some kind :=
  if_pos (List.contains_iff_mem.mpr h)

/-- Once a field is written, its information and its kind are read back, and what is left to
read are the properties of the kind. -/
theorem ofJson?_membersOf (hkind : kind ∈ kinds) (hps : Apart ps)
    (hreadable : Json.membersReadable ps = true) :
    ofJson? (membersOf info kind ps) =
      if kind = "frame" then do
        let _ ← member? (allMembers info kind ps) ["children"]
        return .frame info (← childrenOf? (allMembers info kind ps))
      else return .item info (← contentOf (allMembers info kind ps) kind) := by
  have hmember : member? (allMembers info kind ps) ["kind"] = some (some (.text kind)) :=
    member?_single (nodup_allMembers hps) (by simp [allMembers])
  have hread : Json.membersReadable (kindMembers (allMembers info kind ps)) = true := by
    rw [kindMembers_allMembers hps]
    exact hreadable
  have hkindOf : (some (Json.text kind)).bind kindOf = some kind := kindOf_text hkind
  rw [membersOf_eq, ofJson?, guard, if_pos hread, infoOfMembers_allMembers hps, hmember]
  simp only [Option.pure_def, Option.bind_eq_bind, Option.bind_some, hkindOf]

theorem ofJson?_item {content : Content} (hcontent : content.Portable p)
    (hreadable : Json.membersReadable content.toMembers = true) :
    ofJson? (item info content).toJson = some (item info content) := by
  have hps := apart_toMembers content
  have hread : contentOf (allMembers info content.kind content.toMembers) content.kind =
      some content := contentOf_toMembers hcontent fun m hm => member?_property hps hm
  rw [toJson, ofJson?_membersOf (kind_mem_kinds content) hps hreadable,
    if_neg (kind_ne_frame content), hread]
  rfl

theorem ofJson?_frame {children : List Field}
    (hreadable : Json.areReadable (toJsonAll children) = true)
    (h : ofJsonAll? (toJsonAll children) = some children) :
    ofJson? (frame info children).toJson = some (frame info children) := by
  have hps := apart_children (.array (toJsonAll children))
  have hmember : member? (allMembers info "frame" [("children", .array (toJsonAll children))])
      ["children"] = some (some (.array (toJsonAll children))) :=
    member?_property hps List.mem_cons_self
  have hread : Json.membersReadable [("children", .array (toJsonAll children))] = true := by
    rw [Json.membersReadable, Json.isReadable, hreadable]
    rfl
  rw [toJson, ofJson?_membersOf (by decide) hps hread, if_pos rfl, hmember]
  simp [allMembers, childrenOf?, listOfJson?, h]

theorem writable_toMembers {c : Content} (hc : c.Portable p) :
    Json.WritableMembers c.toMembers := by
  cases c with
  | text default pattern maxLength | multilineText default maxLength =>
    simp [Content.toMembers, Json.WritableMembers, Json.writable_ofNat? hc]
  | _ => simp [Content.toMembers, Json.WritableMembers, Json.Writable]

theorem writable_membersOf (hps : Json.WritableMembers ps) :
    (membersOf info kind ps).Writable := by
  refine Json.writableMembers_iff.mpr fun m hm => ?_
  rcases List.mem_append.mp hm with hm | hm
  · rcases List.mem_append.mp hm with hm | hm
    · fin_cases hm <;> simp [Json.Writable]
    · exact Json.writableMembers_iff.mp hps m hm
  · fin_cases hm <;> simp [Geometry.toJson, Json.Writable, Json.WritableMembers]

mutual
/-- The tree of a field has no integers but its counts. -/
theorem writable_toJson : ∀ {f : Field}, f.Portable p → f.toJson.Writable
  | item _ _, h => writable_membersOf (writable_toMembers h.2)
  | frame _ _, h => writable_membersOf ⟨writableAll_toJsonAll h.2, trivial⟩

theorem writableAll_toJsonAll : ∀ {fs : List Field}, PortableAll p fs →
    Json.WritableAll (toJsonAll fs)
  | [], _ => trivial
  | _ :: _, h => ⟨writable_toJson h.1, writableAll_toJsonAll h.2⟩
end

mutual
/-- A field is read back from its tree. The properties of its kind have to be readable before
any of them is looked at, and what is written is. -/
theorem ofJson?_toJson : ∀ {f : Field}, f.Portable p → ofJson? f.toJson = some f
  | item _ _, h =>
    ofJson?_item h.2 (Json.membersReadable_of_writable (writable_toMembers h.2))
  | frame _ _, h =>
    ofJson?_frame (Json.areReadable_of_writable (writableAll_toJsonAll h.2))
      (ofJsonAll?_toJsonAll h.2)

theorem ofJsonAll?_toJsonAll : ∀ {fs : List Field}, PortableAll p fs →
    ofJsonAll? (toJsonAll fs) = some fs
  | [], _ => rfl
  | f :: fs, h => by
    rw [toJsonAll, ofJsonAll?, ofJson?_toJson h.1, ofJsonAll?_toJsonAll h.2]
    rfl
end

/-! ## The text of a field -/

section Numbers

variable {f : Float → Json}

theorem mapDecimals_toMembers (hp : ∀ x, p x → f x = .decimal x) {c : Content}
    (hc : c.Portable p) : Json.mapDecimalsMembers f c.toMembers = c.toMembers := by
  cases c with
  | label s | formula expression | link url => rfl
  | file accept | text default pattern maxLength | multilineText default maxLength =>
    simp only [Content.toMembers, Json.mapDecimalsMembers, Json.mapDecimals_ofText?,
      Json.mapDecimals_ofNat?]
  | number default min max =>
    obtain ⟨hdefault, hmin, hmax⟩ := hc
    simp only [Content.toMembers, Json.mapDecimalsMembers,
      Json.mapDecimals_ofNumber? fun x hx => hp x (hdefault x hx),
      Json.mapDecimals_ofNumber? fun x hx => hp x (hmin x hx),
      Json.mapDecimals_ofNumber? fun x hx => hp x (hmax x hx)]

theorem mapDecimals_membersOf (hp : ∀ x, p x → f x = .decimal x)
    (hgeometry : info.geometry.AllNumbers p) (hps : Json.mapDecimalsMembers f ps = ps) :
    (membersOf info kind ps).mapDecimals f = membersOf info kind ps := by
  have hg : info.geometry.toJson.mapDecimals f = info.geometry.toJson := by
    simp [Geometry.toJson, Json.mapDecimals, Json.mapDecimalsMembers, hp _ hgeometry.x,
      hp _ hgeometry.y, hp _ hgeometry.width, hp _ hgeometry.height]
  rw [membersOf, Json.mapDecimals, Json.mapDecimalsMembers_eq_map, List.map_append,
    List.map_append, ← Json.mapDecimalsMembers_eq_map f ps, hps]
  simp only [List.map_cons, List.map_nil, Json.mapDecimals, Json.mapDecimals_ofText?, hg]

mutual
/-- If its numbers stay as they are, so does the tree of a field. -/
theorem mapDecimals_toJson (hp : ∀ x, p x → f x = .decimal x) :
    ∀ {g : Field}, g.Portable p → g.toJson.mapDecimals f = g.toJson
  | item _ _, h => mapDecimals_membersOf hp h.1 (mapDecimals_toMembers hp h.2)
  | frame _ _, h => by
    refine mapDecimals_membersOf hp h.1 ?_
    rw [Json.mapDecimalsMembers, Json.mapDecimals, mapDecimalsAll_toJsonAll hp h.2]
    rfl

theorem mapDecimalsAll_toJsonAll (hp : ∀ x, p x → f x = .decimal x) :
    ∀ {fs : List Field}, PortableAll p fs → Json.mapDecimalsAll f (toJsonAll fs) = toJsonAll fs
  | [], _ => rfl
  | _ :: _, h => congrArg₂ List.cons (mapDecimals_toJson hp h.1) (mapDecimalsAll_toJsonAll hp h.2)
end

end Numbers

theorem nesting_toMembers (c : Content) : Json.nestingMembers c.toMembers = 0 := by
  cases c <;> simp [Content.toMembers, Json.nestingMembers, Json.nesting]

theorem nesting_membersOf :
    (membersOf info kind ps).nesting = max (Json.nestingMembers ps) 1 + 1 := by
  rw [membersOf, Json.nesting, Json.nestingMembers_append, Json.nestingMembers_append]
  simp [Json.nestingMembers, Json.nesting, Geometry.toJson]

mutual
/-- A frame opens an object and a list around what is inside it, and a field that is not a
frame an object with one for its geometry. -/
theorem nesting_toJson : ∀ f : Field, f.toJson.nesting ≤ 2 * f.frameDepth + 2
  | item _ content => by
    rw [toJson, nesting_membersOf, nesting_toMembers]
    omega
  | frame _ children => by
    have hchildren := nestingAll_toJsonAll children
    rw [toJson, nesting_membersOf, Json.nestingMembers, Json.nestingMembers, Json.nesting,
      frameDepth]
    omega

theorem nestingAll_toJsonAll : ∀ fs : List Field,
    Json.nestingAll (toJsonAll fs) ≤ 2 * frameDepthAll fs + 2
  | [] => Nat.zero_le _
  | f :: fs => by
    have hf := nesting_toJson f
    have hfs := nestingAll_toJsonAll fs
    rw [toJsonAll, Json.nestingAll, frameDepthAll]
    omega
end

/-- The fields that a text spells out for a codec. -/
def listOfText? (codec : JsonCodec) (text : String) : Option (List Field) :=
  (codec.read text).bind listOfJson?

/-- For every lawful codec and every list of fields of any kinds, with numbers that the codec
keeps, counts of 64 bits and frames nested at most 50 deep: the list is read back from its
text, written either way. -/
theorem listOfText?_toJsonAll {codec : JsonCodec} (hcodec : codec.Lawful) {fs : List Field}
    (hfs : PortableAll codec.Keeps fs) (hdepth : frameDepthAll fs ≤ 50) (style : JsonStyle) :
    listOfText? codec (codec.write style (.array (toJsonAll fs))) = some fs := by
  have hnesting : (Json.array (toJsonAll fs)).nesting ≤ Json.nestingLimit := by
    have hall := nestingAll_toJsonAll fs
    rw [Json.nesting, Json.nestingLimit]
    omega
  have hkept : Json.mapDecimalsAll (codec.reread style) (toJsonAll fs) = toJsonAll fs :=
    mapDecimalsAll_toJsonAll (fun x hx => hx.reread) hfs
  have hread : codec.read (codec.write style (.array (toJsonAll fs))) =
      some ((Json.array (toJsonAll fs)).mapDecimals (codec.reread style)) :=
    hcodec.reads style _ (writableAll_toJsonAll hfs) hnesting
  rw [listOfText?, hread, Json.mapDecimals, hkept]
  exact ofJsonAll?_toJsonAll hfs

/-- An empty text stays apart from none, a zero keeps its sign, and the largest count is
not too large. -/
theorem listOfText?_toJsonAll_nested :
    let fs : List Field :=
      [.frame ⟨"g", some "G", ⟨0.5, -0, 100, 20⟩, false⟩
        [.item (infoOf "t") (.text (some "") none (some (UInt64.size - 1))),
          .ofFrame "h" [.item (referredOf "n") (.number (some (-0)) none (some 1.5)),
            .item (referredOf "m") (.multilineText none none)]],
        .ofFormula "f" "n+1", .item (infoOf "l") (.label "null"), .ofLink "u" "",
        .item (infoOf "a") (.file none)]
    listOfText? .standard (JsonCodec.standard.write .compact (.array (toJsonAll fs))) =
      some fs := by
  have hkeeps : ∀ x ∈ [0, -0, 0.5, 1.5, 20, 100], JsonCodec.standard.Keeps x := by decide +kernel
  simp only [List.forall_mem_cons] at hkeeps
  obtain ⟨hnull, hzero, hhalf, hmost, htwenty, hhundred, -⟩ := hkeeps
  have horigin : Geometry.zero.AllNumbers JsonCodec.standard.Keeps := ⟨hnull, hnull, hnull, hnull⟩
  have hframe : Geometry.AllNumbers JsonCodec.standard.Keeps ⟨0.5, -0, 100, 20⟩ :=
    ⟨hhalf, hzero, hhundred, htwenty⟩
  refine listOfText?_toJsonAll JsonCodec.lawful_standard ?_ (by decide) .compact
  simp [PortableAll, Portable, Content.Portable, infoOf, referredOf, ofFrame, ofFormula, ofLink,
    UInt64.size, horigin, hframe, hzero, hmost]

end Field

end Worksheet
