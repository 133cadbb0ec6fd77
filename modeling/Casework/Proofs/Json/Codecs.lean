import Casework.Json.Codec
import Casework.Proofs.Json.Text
import Mathlib.Data.List.Forall2

set_option autoImplicit false

namespace Casework

variable {α β σ : Type} {room : Nat}

structure Codec.Restores (codec : Codec α) (room : Nat) (value : α) : Prop where
  held : (codec.encode value).Held room
  settled : Codec.settled (codec.encode value) = codec.encode value
  decoded : codec.decode (codec.encode value) = .ok value

namespace Json

theorem areFit_of_all {items : List Json} (fit : ∀ item ∈ items, item.isFit = true) :
    areFit items = true := by
  induction items with
  | nil => rfl
  | cons item items ih =>
    rw [areFit, fit item List.mem_cons_self, Bool.true_and]
    exact ih fun other among => fit other (List.mem_cons_of_mem _ among)

theorem haveFit_of_all {members : List (String × Json)}
    (fit : ∀ member ∈ members, member.2.isFit = true) : haveFit members = true := by
  induction members with
  | nil => rfl
  | cons member members ih =>
    rw [haveFit, fit member List.mem_cons_self, Bool.true_and]
    exact ih fun other among => fit other (List.mem_cons_of_mem _ among)

theorem Held.isFit {value : Json} (held : value.Held room) : value.isFit = true := by
  induction held with
  | null | flag | integer | text => rfl
  | list _ ih => exact areFit_of_all ih
  | object _ ih => exact haveFit_of_all ih

end Json

namespace Codec

theorem restores_text (room : Nat) (value : String) : text.Restores room value :=
  ⟨.text room value, rfl, rfl⟩

theorem restores_flag (room : Nat) (value : Bool) : flag.Restores room value :=
  ⟨.flag room value, rfl, rfl⟩

theorem restores_integer (room : Nat) {least largest value : Int}
    (fits : least ≤ value ∧ value ≤ largest) (word : value.natAbs ≤ Text.largestWord) :
    (integer least largest).Restores room value :=
  ⟨.integer room word, rfl, if_pos fits⟩

theorem restores_natural (room : Nat) {largest value : Nat} (fits : value ≤ largest)
    (word : largest ≤ Text.largestWord) : (natural largest).Restores room value where
  held := .integer room (by rw [Int.natAbs_natCast]; exact le_trans fits word)
  settled := rfl
  decoded := by
    have number : (integer 0 largest).decode (.integer value) = .ok (value : Int) :=
      if_pos ⟨by omega, by exact_mod_cast fits⟩
    change ((integer 0 largest).decode (.integer value)).map Int.toNat = .ok value
    rw [number, Except.map, Int.toNat_natCast]

theorem restores_textual (room : Nat) {write : α → String} {read : String → Option α} {value : α}
    (known : read (write value) = some value) : (textual write read).Restores room value where
  held := .text room _
  settled := rfl
  decoded := by
    simp only [textual, known]

theorem textual_encode_ne_null {write : α → String} {read : String → Option α} (value : α) :
    (textual write read).encode value ≠ .null := nofun

theorem option_decode (codec : Codec α) {json : Json} (present : json ≠ .null) :
    codec.option.decode json = (codec.decode json).map some := by
  cases json with
  | null => exact absurd rfl present
  | _ => rfl

theorem restores_option {codec : Codec α} {source : Option α}
    (given : ∀ value ∈ source, codec.Restores room value)
    (present : ∀ value, codec.encode value ≠ .null) : codec.option.Restores room source := by
  cases source with
  | none => exact ⟨.null room, rfl, rfl⟩
  | some value =>
    have part := given value rfl
    refine ⟨part.held, part.settled, ?_⟩
    change codec.option.decode (codec.encode value) = _
    rw [option_decode codec (present value), part.decoded]
    rfl

theorem decodeItems_encode {codec : Codec α} {values : List α}
    (given : ∀ value ∈ values, codec.Restores room value) :
    decodeItems codec (values.map codec.encode) = .ok values := by
  induction values with
  | nil => rfl
  | cons value values ih =>
    rw [List.map_cons, decodeItems, (given value List.mem_cons_self).decoded]
    simp only [ih fun other member => given other (List.mem_cons_of_mem _ member)]
    rfl

theorem restores_list {codec : Codec α} {values : List α}
    (given : ∀ value ∈ values, codec.Restores room value) :
    codec.list.Restores (room + 1) values where
  held := .list fun item member => by
    obtain ⟨value, among, rfl⟩ := List.mem_map.1 member
    exact (given value among).held
  settled := rfl
  decoded := decodeItems_encode given

theorem restores_choice (room : Nat) {values : List α} {name : α → String} {value : α}
    (found : values.find? (name · == name value) = some value) :
    (choice values name).Restores room value where
  held := .text room _
  settled := rfl
  decoded := by
    change choice.named values name (name value) = .ok value
    rw [choice.named, found]

end Codec

namespace Fields

structure Restores (fields : Fields σ α) (room : Nat) (source : σ) (value : α) : Prop where
  checked : List.Forall₂ (fun member check => member.1 = check.1 ∧ check.2 member.2 = .ok ())
    (fields.write source) fields.checks
  held : ∀ member ∈ fields.write source, member.2.Held room
  settled : ∀ member ∈ fields.write source, Codec.settled member.2 = member.2
  built : ∀ members, (∀ member ∈ fields.write source, members.lookup member.1 = some member.2) →
    fields.ofMembers members = .ok value

theorem restores_of (room : Nat) (source : σ) (value : α) :
    (Fields.of value : Fields σ α).Restores room source value where
  checked := .nil
  held := nofun
  settled := nofun
  built _ _ := rfl

namespace Restores

variable {before : Fields σ (β → α)} {source : σ} {build : β → α} {name : String}
  {codec : Codec β} {get : σ → β}

theorem field {presence : Presence β} (given : before.Restores room source build)
    (part : codec.Restores room (get source)) :
    (before.field presence name codec get).Restores room source (build (get source)) where
  checked := List.rel_append given.checked
    (.cons ⟨rfl, by simp only [part.decoded]; rfl⟩ .nil)
  held member among := by
    rcases List.mem_append.1 among with earlier | last
    · exact given.held member earlier
    · rw [List.mem_singleton.1 last]
      exact part.held
  settled member among := by
    rcases List.mem_append.1 among with earlier | last
    · exact given.settled member earlier
    · rw [List.mem_singleton.1 last]
      exact part.settled
  built members known := by
    have earlier := given.built members fun member among =>
      known member (List.mem_append_left _ among)
    have last := known (name, codec.encode (get source))
      (List.mem_append_right _ List.mem_cons_self)
    simp only [Fields.field, earlier, last, part.decoded]
    rfl

theorem required (given : before.Restores room source build)
    (part : codec.Restores room (get source)) :
    (before.required name codec get).Restores room source (build (get source)) :=
  given.field part

theorem defaulted {missing : β} (given : before.Restores room source build)
    (part : codec.Restores room (get source)) :
    (before.defaulted missing name codec get).Restores room source (build (get source)) :=
  given.field part

theorem optional {before : Fields σ (Option β → α)} {build : Option β → α} {get : σ → Option β}
    (given : before.Restores room source build) (part : codec.option.Restores room (get source)) :
    (before.optional name codec get).Restores room source (build (get source)) :=
  given.field part

end Restores

theorem lookup_of_mem {entries : List (String × β)} {entry : String × β}
    (distinct : (entries.map Prod.fst).Nodup) (among : entry ∈ entries) :
    entries.lookup entry.1 = some entry.2 := by
  obtain ⟨earlier, later, rfl⟩ := List.append_of_mem among
  refine List.lookup_eq_some_iff.2 ⟨earlier, later, rfl, fun other member => ?_⟩
  rw [List.map_append, List.nodup_append] at distinct
  have apart := distinct.2.2 other.1 (List.mem_map_of_mem member) entry.1 List.mem_cons_self
  exact bne_iff_ne.2 apart.symm

theorem check_of_accepted {checks part : List (String × (Json → Except Fault Unit))}
    {members : List (String × Json)}
    (accepted : List.Forall₂ (fun member check => member.1 = check.1 ∧ check.2 member.2 = .ok ())
      members part)
    (known : ∀ entry ∈ part, checks.lookup entry.1 = some entry.2)
    (distinct : (part.map Prod.fst).Nodup) (seen : List String)
    (fresh : ∀ entry ∈ part, entry.1 ∉ seen) : check checks seen members = .ok () := by
  induction accepted generalizing seen with
  | nil => rfl
  | @cons member entry members part pair _ ih =>
    obtain ⟨named, passed⟩ := pair
    rw [List.map_cons, List.nodup_cons] at distinct
    have entered := known entry List.mem_cons_self
    rw [check, named, entered]
    simp only [if_neg (fresh entry List.mem_cons_self), passed]
    refine ih (fun other among => known other (List.mem_cons_of_mem _ among)) distinct.2 _ ?_
    intro other among either
    rcases List.mem_cons.1 either with same | early
    · exact distinct.1 (same ▸ List.mem_map_of_mem among)
    · exact fresh other (List.mem_cons_of_mem _ among) early

variable {fields : Fields σ α} {source : σ} {value : α}

theorem Restores.names (given : fields.Restores room source value) :
    (fields.write source).map Prod.fst = fields.checks.map Prod.fst := by
  have named := given.checked
  generalize fields.write source = members at named
  generalize fields.checks = checks at named
  induction named with
  | nil => rfl
  | cons pair _ ih => rw [List.map_cons, List.map_cons, pair.1, ih]

theorem Restores.decodeMembers (given : fields.Restores room source value)
    (distinct : (fields.checks.map Prod.fst).Nodup) :
    fields.decodeMembers (fields.write source) = .ok value := by
  have passed := check_of_accepted given.checked (fun _ => lookup_of_mem distinct) distinct []
    (fun _ _ => List.not_mem_nil)
  have distinct_members := distinct
  rw [← given.names] at distinct_members
  rw [Fields.decodeMembers, passed]
  exact given.built _ fun _ => lookup_of_mem distinct_members

end Fields

namespace Codec

theorem record_encode_ne_null {fields : Fields α α} (value : α) :
    (record fields).encode value ≠ .null := nofun

theorem restores_record {fields : Fields α α} {source value : α}
    (given : fields.Restores room source value) (same : value = source)
    (distinct : (fields.checks.map Prod.fst).Nodup) (several : 1 < fields.checks.length) :
    (record fields).Restores (room + 1) source where
  held := .object given.held
  settled := by
    have count := congrArg List.length given.names
    rw [List.length_map, List.length_map] at count
    change settled (.object (fields.write source)) = .object (fields.write source)
    rw [settled.eq_def]
    split
    case h_1 shape =>
      rw [Json.object.inj shape, List.length_singleton] at count
      omega
    case h_2 => rfl
  decoded := same ▸ given.decodeMembers distinct

theorem findVariant_of_others {tag : String} {variants : List (Variant α)} (found : Variant α)
    {members : List (String × Json)} (others : ∀ member ∈ members, member.1 ≠ tag)
    (fit : ∀ member ∈ members, member.2.isFit = true) :
    findVariant tag variants (some found) members = .ok (some found) := by
  induction members with
  | nil => rfl
  | cons member members ih =>
    rw [findVariant, if_neg (others member List.mem_cons_self),
      if_pos (fit member List.mem_cons_self)]
    exact ih (fun other among => others other (List.mem_cons_of_mem _ among))
      fun other among => fit other (List.mem_cons_of_mem _ among)

theorem restores_tagged {tag name : String} {variants : List (Variant α)} {fields : Fields β β}
    {embed : β → α} {project? : α → Option β} {source value : β}
    (written : encodeVariant tag variants (embed source) =
      .object ((tag, .text name) :: fields.write source))
    (found : variants.find? (·.name == name) = some (.of name fields embed project?))
    (given : fields.Restores room source value) (same : value = source)
    (distinct : (tag :: fields.checks.map Prod.fst).Nodup) :
    (tagged tag variants).Restores (room + 1) (embed source) := by
  obtain ⟨untagged, distinct⟩ := List.nodup_cons.1 distinct
  have others : ∀ member ∈ fields.write source, member.1 ≠ tag := fun member among named =>
    untagged (named ▸ given.names ▸ List.mem_map_of_mem among)
  refine ⟨?_, ?_, ?_⟩
  · change (encodeVariant tag variants (embed source)).Held _
    rw [written]
    refine .object fun member among => ?_
    rcases List.mem_cons.1 among with rfl | other
    · exact .text room name
    · exact given.held member other
  · change settled (encodeVariant tag variants (embed source)) =
      encodeVariant tag variants (embed source)
    rw [written]
    cases fields.write source <;> rfl
  · change (tagged tag variants).decode (encodeVariant tag variants (embed source)) = _
    have tell : findVariant tag variants none ((tag, .text name) :: fields.write source) =
        .ok (some (.of name fields embed project?)) := by
      rw [findVariant, if_pos rfl]
      simp only [variantNamed, found]
      exact findVariant_of_others _ others fun member among => (given.held member among).isFit
    have kept : ((tag, Json.text name) :: fields.write source).filter (·.1 ≠ tag) =
        fields.write source := by
      rw [List.filter_cons_of_neg (by simp), List.filter_eq_self]
      exact fun member among => decide_eq_true (others member among)
    have left_alone : (fields.write source).map (fun member => (member.1, settled member.2)) =
        fields.write source := by
      refine (List.map_congr_left fun member among => ?_).trans (List.map_id _)
      exact Prod.ext rfl (given.settled member among)
    rw [written]
    simp only [tagged, tell, kept]
    change reshape ((Variant.of name fields embed project?).decodeMembers
      ((fields.write source).map fun member => (member.1, settled member.2))) = _
    rw [left_alone]
    simp only [Variant.of, given.decodeMembers distinct, same]
    rfl

/-- The text that is written for the value is one JSON text, with nothing after it, and is decoded
as the value. -/
structure RoundTrips (codec : Codec α) (value : α) : Prop where
  whole : (Json.readValue ((codec.encode value).spelling.length + 1) Json.depthLimit
    (codec.encode value).spelling.toList).2 = some []
  decoded : codec.decode (Json.ofText (codec.encode value).spelling) = .ok value

theorem Restores.roundTrips {codec : Codec α} {value : α}
    (restored : codec.Restores room value) (shallow : room ≤ Json.depthLimit) :
    codec.RoundTrips value where
  whole := congrArg Prod.snd (restored.held.read_spelling shallow)
  decoded := by rw [restored.held.ofText_spelling shallow, restored.decoded]

end Codec

end Casework
