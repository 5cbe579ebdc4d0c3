import ScopedStyles.HotUpdate
import ScopedStyles.ModuleOutput
import ScopedStyles.Proofs.Json

/-! # Values on the wire

Hot updates go to the clients, loaded modules and outputs to the host.  Each of these values is
written as an object with a member for every field, and an object is read by these members alone
(`Update.ofJson_object`, `LoadedModule.ofJson_object`, `Output.ofJson_object`).  So what is written
is read back, and members of other names make no difference (`wireValues_readBack`).

A payload is read in another way than the rest: its tag decides how the other members are read, and
a member of the tag's name stands in each of its updates as well (`Payload.ofJson_object`). -/

namespace ScopedStyles

open Json (Widened Wider ReadsBack discard_eq_ok_iff field_eq_of_member member?_widened)

/-! ### Simple values -/

namespace Json

theorem asWord_nat (n : UInt64) : asWord (nat n.toNat) = .ok n := by
  have hn : (0 : Int) ≤ Int.ofNat n.toNat ∧ (Int.ofNat n.toNat).toNat < UInt64.size :=
    ⟨Int.natCast_nonneg _, n.toNat_lt⟩
  show (if _ then _ else _) = _
  rw [if_pos hn]
  exact congrArg Except.ok UInt64.ofNat_toNat

theorem asOptionalText_ofOption (s : Option String) : asOptionalText (ofOption s) = .ok s := by
  cases s <;> rfl

theorem asList_map_string (ss : List String) :
    asList asText (.array (ss.map .string)) = .ok ss := by
  refine items_eq_ok_iff.mpr ?_
  rw [List.forall₂_map_left_iff, List.forall₂_same]
  exact fun _ _ => rfl

end Json

theorem UpdateKind.ofJson_name (route : Json.Route) (k : UpdateKind) :
    ofJson route (.string k.name) = .ok k := by
  cases k
  rfl

/-! ### Updates -/

namespace Update

def own : List String := ["acceptedPath", "path", "timestamp", "type"]

def members (u : Update) : List (String × Json) :=
  [("acceptedPath", .string u.acceptedPath), ("path", .string u.path),
    ("timestamp", .nat u.timestamp.toNat), ("type", .string u.kind.name)]

theorem check_foreign (route : Json.Route) {name : String} (h : name ∉ own) (v : Json) :
    check route name v = .ok () := by
  simp only [own, List.mem_cons, List.not_mem_nil, or_false, not_or] at h
  simp [check, h]

theorem ofJson_object {route : Json.Route} {u : Update} {ms : List (String × Json)}
    (h : ∀ name ∈ own, Json.member? ms name = Json.member? u.members name) :
    ofJson route (.object ms) = .ok u := by
  have ha : Json.member? ms "acceptedPath" = some (.string u.acceptedPath) := h _ (by decide)
  have hp : Json.member? ms "path" = some (.string u.path) := h _ (by decide)
  have ht : Json.member? ms "timestamp" = some (.nat u.timestamp.toNat) := h _ (by decide)
  have hk : Json.member? ms "type" = some (.string u.kind.name) := h _ (by decide)
  have hcheck : Json.checkMembers (check route) ms ms = .ok () := by
    refine Json.checkMembers_of_own (fun _ hname => check_foreign route hname) ?_
    simp only [own, List.forall_mem_cons]
    exact ⟨⟨_, ha, rfl⟩, ⟨_, hp, rfl⟩, ⟨_, ht, discard_eq_ok_iff.mpr ⟨_, Json.asWord_nat _⟩⟩,
      ⟨_, hk, discard_eq_ok_iff.mpr ⟨_, UpdateKind.ofJson_name route _⟩⟩, List.forall_mem_nil _⟩
  unfold ofJson
  simp only [hcheck, field_eq_of_member ha, field_eq_of_member hp, field_eq_of_member ht,
    field_eq_of_member hk, Json.asWord_nat, UpdateKind.ofJson_name]
  rfl

theorem readsBack (route : Json.Route) : ReadsBack toJson (ofJson route) (Wider own) :=
  .of_own (fun _ => by simp) ofJson_object

end Update

/-! ### Payloads -/

namespace Payload

def own : List String := ["type", "updates"]

def members (vs : List Json) : List (String × Json) :=
  [("type", .string "update"), ("updates", .array vs)]

/-- Foreign members in a payload and in each of its updates. -/
inductive WiderThroughout : Json → Json → Prop
  | object {vs ws : List Json} {ns : List (String × Json)} :
      List.Forall₂ (Wider Update.own) vs ws → Widened own (members ws) ns →
      WiderThroughout (.object (members vs)) (.object ns)

/-- A payload is read by its tag and its updates, each by itself. -/
theorem ofJson_object {us : List Update} {vs : List Json} {ms : List (String × Json)}
    (ht : Json.member? ms "type" = some (.string "update"))
    (hu : Json.member? ms "updates" = some (.array vs))
    (hvs : List.Forall₂ (fun v u => Update.ofJson .aside v = .ok u) vs us) :
    ofJson (.object ms) = .ok (.update us) := by
  have hlist : Json.asList (Update.ofJson .aside) (.array vs) = .ok us :=
    Json.items_eq_ok_iff.mpr hvs
  unfold ofJson
  simp only [field_eq_of_member ht, field_eq_of_member hu, hlist]
  rfl

theorem readsBack : ReadsBack toJson ofJson WiderThroughout := by
  have hupdate := Update.readsBack .aside
  refine .of_wider ?_ ?_
  · rintro ⟨us⟩
    refine .object (List.forall₂_same.mpr fun v hv => ?_) (.refl own _)
    obtain ⟨u, -, rfl⟩ := List.mem_map.mp hv
    exact hupdate.wider_self u
  · rintro ⟨us⟩ v hv
    cases hv with
    | object hvs hns =>
        have hnodup (ws : List Json) : ((members ws).map (·.1)).Nodup := by simp [members]
        rw [List.forall₂_map_left_iff] at hvs
        exact ofJson_object (member?_widened hns (hnodup _) (by decide))
          (member?_widened hns (hnodup _) (by decide))
          (hvs.flip.imp fun w u hw => hupdate.read_wider u w hw)

end Payload

/-! ### Loaded modules -/

namespace LoadedModule

def own : List String := ["code", "watchFiles"]

def members (m : LoadedModule) : List (String × Json) :=
  [("code", .string m.code), ("watchFiles", .array (m.watchFiles.map .string))]

theorem check_foreign {name : String} (h : name ∉ own) (v : Json) : check name v = .ok () := by
  simp only [own, List.mem_cons, List.not_mem_nil, or_false, not_or] at h
  simp [check, h]

theorem ofJson_object {m : LoadedModule} {ms : List (String × Json)}
    (h : ∀ name ∈ own, Json.member? ms name = Json.member? m.members name) :
    ofJson (.object ms) = .ok m := by
  have hc : Json.member? ms "code" = some (.string m.code) := h _ (by decide)
  have hw : Json.member? ms "watchFiles" = some (.array (m.watchFiles.map .string)) :=
    h _ (by decide)
  have hcheck : Json.checkMembers check ms ms = .ok () := by
    refine Json.checkMembers_of_own (fun _ => check_foreign) ?_
    simp only [own, List.forall_mem_cons]
    exact ⟨⟨_, hc, rfl⟩, ⟨_, hw, discard_eq_ok_iff.mpr ⟨_, Json.asList_map_string _⟩⟩,
      List.forall_mem_nil _⟩
  unfold ofJson
  simp only [hcheck, field_eq_of_member hc, field_eq_of_member hw, Json.asList_map_string]
  rfl

theorem readsBack : ReadsBack toJson ofJson (Wider own) :=
  .of_own (fun _ => by simp) ofJson_object

end LoadedModule

/-! ### Outputs -/

namespace Output

def own : List String := ["code", "map"]

def members (o : Output) : List (String × Json) :=
  [("code", .string o.code), ("map", .ofOption o.map)]

theorem check_foreign {name : String} (h : name ∉ own) (v : Json) : check name v = .ok () := by
  simp only [own, List.mem_cons, List.not_mem_nil, or_false, not_or] at h
  simp [check, h]

theorem ofJson_object {o : Output} {ms : List (String × Json)}
    (h : ∀ name ∈ own, Json.member? ms name = Json.member? o.members name) :
    ofJson (.object ms) = .ok o := by
  have hc : Json.member? ms "code" = some (.string o.code) := h _ (by decide)
  have hm : Json.member? ms "map" = some (.ofOption o.map) := h _ (by decide)
  have hcheck : Json.checkMembers check ms ms = .ok () := by
    refine Json.checkMembers_of_own (fun _ => check_foreign) ?_
    simp only [own, List.forall_mem_cons]
    exact ⟨⟨_, hc, rfl⟩, ⟨_, hm, discard_eq_ok_iff.mpr ⟨_, Json.asOptionalText_ofOption _⟩⟩,
      List.forall_mem_nil _⟩
  unfold ofJson
  simp only [hcheck, field_eq_of_member hc, Json.fieldOr_eq_elim, hm, Option.elim_some,
    Json.asOptionalText_ofOption]
  rfl

theorem readsBack : ReadsBack toJson ofJson (Wider own) :=
  .of_own (fun _ => by simp) ofJson_object

end Output

/-! ### The main statement -/

/-- **Wire values are read back.**  Whatever is written for a payload, an update (by itself or in a
payload), a loaded module or an output is read as this value and no other; different values are
written differently; and reading gives the same value when members of other names stand among those
that are written, for a payload in the payload as well as in each of its updates. -/
theorem wireValues_readBack :
    ReadsBack Payload.toJson Payload.ofJson Payload.WiderThroughout ∧
    (∀ route, ReadsBack Update.toJson (Update.ofJson route) (Wider Update.own)) ∧
    ReadsBack LoadedModule.toJson LoadedModule.ofJson (Wider LoadedModule.own) ∧
    ReadsBack Output.toJson Output.ofJson (Wider Output.own) :=
  ⟨Payload.readsBack, Update.readsBack, LoadedModule.readsBack, Output.readsBack⟩

/-- The largest timestamp, in a payload with a member `acceptedPath` and an update with a member
`updates`. -/
theorem wireValues_readBack_foreign :
    Payload.WiderThroughout (Payload.toJson (.update [⟨"/a", "", 18446744073709551615, .jsUpdate⟩]))
        (.object [("acceptedPath", .null),
          ("updates", .array [.object [("acceptedPath", .string "/a"), ("path", .string ""),
            ("timestamp", .integer 18446744073709551615), ("type", .string "js-update"),
            ("updates", .array [])]]),
          ("type", .string "update")]) ∧
      Payload.ofJson (.object [("acceptedPath", .null),
          ("updates", .array [.object [("acceptedPath", .string "/a"), ("path", .string ""),
            ("timestamp", .integer 18446744073709551615), ("type", .string "js-update"),
            ("updates", .array [])]]),
          ("type", .string "update")]) =
        .ok (.update [⟨"/a", "", 18446744073709551615, .jsUpdate⟩]) := by
  have hupdate : Wider Update.own (Update.toJson ⟨"/a", "", 18446744073709551615, .jsUpdate⟩)
      (.object [("acceptedPath", .string "/a"), ("path", .string ""),
        ("timestamp", .integer 18446744073709551615), ("type", .string "js-update"),
        ("updates", .array [])]) :=
    .object ⟨[("updates", .array [])], by decide, .refl _⟩
  have hwider := Payload.WiderThroughout.object (.cons hupdate .nil)
    ⟨[("acceptedPath", .null)], by decide, List.reverse_perm _⟩
  exact ⟨hwider, wireValues_readBack.1.read_wider _ _ hwider⟩

end ScopedStyles
