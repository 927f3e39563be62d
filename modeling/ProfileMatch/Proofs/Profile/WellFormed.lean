import Mathlib.Tactic.Common
import ProfileMatch.Proofs.Profile.Stored
import ProfileMatch.Proofs.Profile.Values
import ProfileMatch.Proofs.Route.Network
/-!
The form of profiles that were read.

* `Route.WellFormedIn`: a route of a family, with addresses that can be read again;
* `Profile.WellFormed`: values of the schema are of their kind and no text is empty, and all routes
  are well formed, of the family of their setting; every profile that was read is such
  (`Profile.wellFormed_of_ofJson`);
* `Profile.WellFormed.get?_of_text`, `get?_of_list`, `get?_of_map`: so the accessors, which take a
  value of another kind for none, lose nothing of what is stored;
* `Profile.WellFormed.effective?_eq_or`: and what they find, or else the default, is effective;
* `Profile.WellFormed.exists_canonical?`: and routes can always be compared.
-/

namespace ProfileMatch

/-! ### Routes -/

lemma Family.name_injective {f g : Family} (h : f.name = g.name) : f = g := by
  cases f <;> cases g <;> simp_all [name]

namespace Route

/-- **Well-formed routes** of a family: the destination is an address of the family, spelled in the
one way, the prefix is no longer than it, and a next hop is an address of the family too. -/
structure WellFormedIn (f : Family) (r : Route) : Prop where
  family : r.family = f
  destination : ∃ a, Address.read? r.destination = some a ∧ a.family = f ∧ a.text = r.destination
  prefixLength : r.prefixLength ≤ f.width
  hop : ∀ hop, r.nextHop = some hop → ∃ a, Address.read? hop = some a ∧ a.family = f

variable {f : Family} {r : Route}

/-- A route that was read is well formed in its family: what an address is written as is read as
that address. -/
lemma Readable.wellFormedIn (h : r.Readable) : r.WellFormedIn r.family := by
  obtain ⟨a, hfamily, htext⟩ := h.destination
  have hread : Address.read? r.destination = some a := by
    rw [← htext]
    exact Address.read?_text a
  exact ⟨rfl, ⟨a, hread, hfamily, htext⟩, h.prefixLength, h.hop⟩

/-- A well-formed route leads to a network. -/
lemma WellFormedIn.isSome_network? (h : r.WellFormedIn f) : r.network?.isSome = true := by
  obtain ⟨a, hread, hfamily, -⟩ := h.destination
  have hleads : r.LeadsTo a := ⟨hread, hfamily.trans h.family.symm, h.family ▸ h.prefixLength⟩
  rw [hleads.network?_eq]
  rfl

end Route

/-! ### Values -/

namespace Value

variable {k : Key} {p : Property} {v : Value}

/-- A value that is stored under a key of the schema is of the kind of the property. -/
lemma Stored.kind_eq (h : v.Stored k) (hk : Property.of? k = some p) : v.kind = p.kind := by
  cases h with
  | bool b hkind => exact (hkind p hk).symm
  | int i hkind => exact (hkind p hk).symm
  | text s hkind => exact (hkind p hk).symm
  | list items hkind => exact (hkind p hk).symm
  | map entries hkind => exact (hkind p hk).symm
  | routes rs hknown hkind => exact (hkind p hk).symm

/-- No text that is stored under a key of the schema is empty. -/
lemma Stored.ne_empty (h : v.Stored k) (hk : Property.of? k = some p) : v ≠ .text "" := by
  rintro rfl
  cases h with
  | text s hkind hnonempty => exact hnonempty (by rw [hk]; rfl) rfl

/-- Only the properties of that name in the settings of the families hold routes. -/
lemma kind_routes_cases : ∀ s ∈ schema, ∀ p ∈ s.properties, p.kind = .routes →
    ∃ f ∈ [Family.v4, Family.v6], s.name = f.name ∧ p.name = "routes" := by
  decide

/-- Routes are stored nowhere but under the key for them of a family, which is theirs. -/
lemma Stored.exists_family_of_routes {rs : List Route} (h : (Value.routes rs).Stored k) :
    ∃ f, k = .ipRoutes f ∧ ∀ r ∈ rs, r.WellFormedIn f := by
  cases h with
  | routes _ hknown hkind hreadable =>
      obtain ⟨p, hp⟩ := Option.isSome_iff_exists.mp hknown
      obtain ⟨s, hs, hsetting, hmem, hproperty⟩ := Property.of?_eq_some_iff.mp hp
      obtain ⟨f, -, hname, hroutes⟩ := kind_routes_cases s hs p hmem (hkind p hp)
      have hk : k = .ipRoutes f := by
        obtain ⟨setting, property⟩ := k
        rw [Key.ipRoutes, ← hname, ← hroutes]
        exact congrArg₂ Key.mk hsetting.symm hproperty.symm
      have hfamily : routeFamily k.setting = f := by
        rw [hk]
        cases f <;> rfl
      refine ⟨f, hk, fun r hr => ?_⟩
      obtain ⟨hr, hrf⟩ := hreadable r hr
      rw [← hrf.trans hfamily]
      exact hr.wellFormedIn

lemma map_bool?_of_kind (h : v.kind = .bool) : v.bool?.map bool = some v := by
  cases v with
  | bool b => rfl
  | _ => cases h

lemma map_int?_of_kind (h : v.kind = .int) : v.int?.map int = some v := by
  cases v with
  | int i => rfl
  | _ => cases h

lemma map_text?_of_kind (h : v.kind = .text) : v.text?.map text = some v := by
  cases v with
  | text s => rfl
  | _ => cases h

/-- Texts are told apart as values. -/
lemma map_text_injective : Function.Injective (Option.map text) :=
  Option.map_injective fun _ _ h => text.inj h

lemma map_list?_of_kind (h : v.kind = .list) : v.list?.map list = some v := by
  cases v with
  | list items => rfl
  | _ => cases h

lemma map_map?_of_kind (h : v.kind = .map) : v.map?.map map = some v := by
  cases v with
  | map entries => rfl
  | _ => cases h

lemma map_routes?_of_kind (h : v.kind = .routes) : v.routes?.map routes = some v := by
  cases v with
  | routes rs => rfl
  | _ => cases h

end Value

/-! ### Profiles -/

namespace Profile

/-- **Well-formed profiles**: a value of a property that the schema knows is of its kind and is no
empty text, and routes are stored for the families alone, each for its own. -/
structure WellFormed (p : Profile) : Prop where
  kind : ∀ k property v, Property.of? k = some property → p.get? k = some v →
    v.kind = property.kind
  nonempty : ∀ k property, Property.of? k = some property → p.get? k ≠ some (.text "")
  routes : ∀ k rs, p.get? k = some (.routes rs) →
    ∃ f, k = .ipRoutes f ∧ ∀ r ∈ rs, r.WellFormedIn f

variable {p : Profile} {k : Key}

lemma Decoded.wellFormed (h : p.Decoded) : p.WellFormed where
  kind k _ v hk hv := (h k v hv).kind_eq hk
  nonempty k _ hk hv := (h k _ hv).ne_empty hk rfl
  routes k _ hv := (h k _ hv).exists_family_of_routes

/-- **A profile that was read is well formed.** -/
lemma wellFormed_of_ofJson {v : Json} (h : ofJson v = .ok p) : p.WellFormed :=
  (decoded_of_ofJson h).wellFormed

namespace WellFormed

/-- A reader that gives the values of a kind back loses nothing of a property of that kind. -/
lemma get?_eq_map (h : p.WellFormed) {α : Type} {kind : Kind} {wrap : α → Value}
    {read : Value → Option α} (hread : ∀ v : Value, v.kind = kind → (read v).map wrap = some v)
    (hk : (Property.of? k).map Property.kind = some kind) :
    p.get? k = ((p.get? k).bind read).map wrap := by
  obtain ⟨property, hproperty, hkind⟩ := Option.map_eq_some_iff.mp hk
  cases hv : p.get? k with
  | none => rfl
  | some v => exact (hread v ((h.kind k property v hproperty hv).trans hkind)).symm

lemma get?_of_text (h : p.WellFormed) (hk : (Property.of? k).map Property.kind = some .text) :
    p.get? k = (p.text? k).map .text :=
  h.get?_eq_map (fun _ => Value.map_text?_of_kind) hk

lemma get?_of_list (h : p.WellFormed) (hk : (Property.of? k).map Property.kind = some .list) :
    p.get? k = ((p.get? k).bind Value.list?).map .list :=
  h.get?_eq_map (fun _ => Value.map_list?_of_kind) hk

lemma get?_of_map (h : p.WellFormed) (hk : (Property.of? k).map Property.kind = some .map) :
    p.get? k = ((p.get? k).bind Value.map?).map .map :=
  h.get?_eq_map (fun _ => Value.map_map?_of_kind) hk

/-- The effective value of a property of the schema: what a reader that loses nothing of its kind
finds stored, and else the default. -/
lemma effective?_eq_or (h : p.WellFormed) {α : Type} {kind : Kind} {default? : Option Value}
    {wrap : α → Value} {read : Value → Option α}
    (hread : ∀ v : Value, v.kind = kind → (read v).map wrap = some v)
    (hk : (Property.of? k).map (fun q => (q.kind, q.default)) = some (kind, default?)) :
    p.effective? k = (((p.get? k).bind read).map wrap).or default? := by
  obtain ⟨property, hproperty, hdata⟩ := Option.map_eq_some_iff.mp hk
  obtain ⟨hkind, hdefault⟩ := Prod.mk.inj hdata
  have hget := h.get?_eq_map hread (k := k) (by rw [hproperty, Option.map_some, hkind])
  rw [effective?, hproperty, Option.bind_some, hdefault, ← hget]

/-- A text of the schema without a default is effective exactly as it is stored. -/
lemma effective?_of_text (h : p.WellFormed)
    (hk : (Property.of? k).map (fun q => (q.kind, q.default)) = some (.text, none)) :
    p.effective? k = (p.text? k).map .text := by
  rw [h.effective?_eq_or (fun _ => Value.map_text?_of_kind) hk, Option.or_none, text?]

/-- A property whose default is of its kind always has a value of that kind. -/
lemma effective?_eq_getD (h : p.WellFormed) {α : Type} {kind : Kind} {wrap : α → Value}
    {read : Value → Option α} {default : α}
    (hread : ∀ v : Value, v.kind = kind → (read v).map wrap = some v)
    (hk : (Property.of? k).map (fun q => (q.kind, q.default)) = some (kind, some (wrap default))) :
    p.effective? k = some (wrap (((p.get? k).bind read).getD default)) := by
  rw [h.effective?_eq_or hread hk]
  cases (p.get? k).bind read <;> rfl

/-- The routes of a family are well formed in it. -/
lemma wellFormedIn_of_mem_ipRoutes (h : p.WellFormed) {f : Family} {r : Route}
    (hr : r ∈ p.ipRoutes f) : r.WellFormedIn f := by
  rw [ipRoutes] at hr
  cases hv : p.get? (.ipRoutes f) with
  | none =>
      rw [hv] at hr
      exact absurd hr List.not_mem_nil
  | some v =>
      rw [hv] at hr
      cases v with
      | routes rs =>
          obtain ⟨f', hkey, hall⟩ := h.routes _ rs hv
          have hfamily : f = f' := Family.name_injective (congrArg Key.setting hkey)
          rw [hfamily]
          exact hall r hr
      | _ => exact absurd hr List.not_mem_nil

/-- **Routes can be compared**: with any metric for the open ones, they have a canonical form. -/
lemma exists_canonical? (h : p.WellFormed) (f : Family) (default : Int) :
    ∃ rs, Route.canonical? default (p.ipRoutes f) = some rs :=
  ⟨_, Route.canonical?_of_valid fun _ hr => (h.wellFormedIn_of_mem_ipRoutes hr).isSome_network?⟩

end WellFormed

end Profile

end ProfileMatch
