import ContainerOps.Swarm.Config
import ContainerOps.Proofs.Decoding.Entries

/-!
# Settings of a configuration

Every name stands for one field, every value of a field is read as a setting of that field, and a
configuration is put together from its settings in any order.

Main results:

- `Field.ofKey?_eq_some_iff`: a key stands for the field that it is a name of.
- `Setting.field_of_read`: a value is read as a setting of the field that was asked for.
- `Config.assemble_perm`: settings of different fields can be in any order.
- `Config.respects_schema`: values that no question tells apart are read as the same setting.
-/

namespace ContainerOps.Swarm

open ContainerOps.Decoding

universe u

/-! ## Names -/

namespace Field

/-- Every field is in the order of declaration. -/
theorem mem_all (f : Field) : f ∈ all := by
  cases f <;> decide

/-- Different fields have no name in common. -/
theorem eq_of_mem_names {f g : Field} {key : String} (hf : key ∈ f.names) (hg : key ∈ g.names) :
    f = g := by
  have hdisjoint : ∀ f ∈ all, ∀ g ∈ all, ∀ key ∈ f.names, key ∈ g.names → f = g := by
    decide +kernel
  exact hdisjoint f f.mem_all g g.mem_all key hf hg

/-- A key stands for the field that it is a name of. -/
theorem ofKey?_eq_some_iff {key : String} {f : Field} : ofKey? key = some f ↔ key ∈ f.names := by
  constructor
  · intro h
    simpa using List.find?_some h
  · intro h
    cases hfound : ofKey? key with
    | none =>
      have hall := List.find?_eq_none.mp hfound f f.mem_all
      exact absurd (decide_eq_true h) hall
    | some g =>
      have hg : key ∈ g.names := by simpa using List.find?_some hfound
      rw [eq_of_mem_names hg h]

/-- A key that is no name stands for nothing. -/
theorem ofKey?_eq_none_iff {key : String} : ofKey? key = none ↔ ∀ f : Field, key ∉ f.names := by
  simp [Option.eq_none_iff_forall_ne_some, ofKey?_eq_some_iff]

end Field

/-! ## Settings -/

namespace Setting

/-- The field of a setting. -/
def field : Setting → Field
  | .plugin _ => .plugin
  | .dockerHost _ => .dockerHost
  | .verboseOutput _ => .verboseOutput
  | .tls _ => .tls
  | .validateCerts _ => .validateCerts
  | .clientKey _ => .clientKey
  | .caPath _ => .caPath
  | .clientCert _ => .clientCert
  | .tlsHostname _ => .tlsHostname
  | .sslVersion _ => .sslVersion
  | .apiVersion _ => .apiVersion
  | .timeout _ => .timeout
  | .useSshClient _ => .useSshClient
  | .includeHostUri _ => .includeHostUri
  | .includeHostUriPort _ => .includeHostUriPort
  | .strict _ => .strict
  | .keyedGroups _ => .keyedGroups

/-- A value is read as a setting of the field that was asked for. -/
theorem field_of_read {α : Type u} [Source α] {f : Field} {value : α} {s : Setting}
    (h : read f value = .ok s) : s.field = f := by
  cases f <;>
  · obtain ⟨_, -, rfl⟩ := map_eq_ok_iff.mp h
    rfl

/-- Settings of different fields can be searched in any order for what only one field has. -/
theorem findSome?_perm {β : Type} {settings settings' : List Setting}
    (order : settings.Perm settings') (once : (settings.map field).Nodup)
    {pick : Setting → Option β} (f : Field) (only : ∀ s, s.field ≠ f → pick s = none) :
    settings.findSome? pick = settings'.findSome? pick := by
  induction order with
  | nil => rfl
  | cons s _ ih =>
    simp only [List.findSome?_cons, ih (List.nodup_cons.mp once).2]
  | swap s t rest =>
    have hne : t.field ≠ s.field := by
      intro heq
      simp [heq] at once
    by_cases hs : s.field = f
    · simp [List.findSome?_cons, only t (hs ▸ hne)]
    · simp [List.findSome?_cons, only s hs]
  | trans order _ ih ih' =>
    rw [ih once, ih' ((order.map field).nodup_iff.mp once)]

end Setting

/-! ## Values that no question tells apart -/

section Respects

variable {α : Type u} [Source α] {R : α → α → Prop}

/-- Related values are read as the same keyed group. -/
theorem KeyedGroup.refines_read (hR : Respects R) {v w : α} (h : R v w) :
    Refines Eq (read v) (read w) := by
  refine hR.readRecord ⟨fun f v w h => ?_, hR.skip⟩ h
  exact (hR.text _ v w h).map_eq _

namespace Setting

/-- Values inside related values are read alike. -/
theorem refines_optional (hR : Respects R) {result : Type} {inner : α → Except Fault result}
    (hinner : ∀ v w, R v w → Refines Eq (inner v) (inner w)) {v w : α} (h : R v w) :
    Refines Eq (optional inner v) (optional inner w) := by
  unfold optional
  cases hv : Source.optional v with
  | error fault => exact refines_error _ _
  | ok found =>
    obtain ⟨found', hw, hfound⟩ := hR.optional v w h found hv
    rw [hw]
    cases hfound with
    | none => exact refines_ok_ok.mpr rfl
    | some hinside => exact (hinner _ _ hinside).map_eq _

/-- Related values are read as the same keyed groups. -/
theorem refines_groups (hR : Respects R) {v w : α} (h : R v w) :
    Refines Eq (groups v) (groups w) := by
  unfold groups
  cases hv : Source.items v with
  | error fault => exact refines_error _ _
  | ok found =>
    obtain ⟨found', hw, hfound⟩ := hR.items v w h found hv
    rw [hw]
    exact refines_readItems (fun _ _ h => KeyedGroup.refines_read hR h) hfound

/-- Related values are read as the same setting. -/
theorem refines_read (hR : Respects R) (f : Field) {v w : α} (h : R v w) :
    Refines Eq (read f v) (read f w) := by
  cases f
  case plugin | dockerHost => exact (hR.text _ v w h).map_eq _
  case verboseOutput | tls | validateCerts | useSshClient | includeHostUri | strict =>
    exact (hR.flag v w h).map_eq _
  case clientKey | caPath | clientCert | tlsHostname | sslVersion | apiVersion =>
    exact (refines_optional hR (hR.text _) h).map_eq _
  case timeout => exact (hR.natural _ _ v w h).map_eq _
  case includeHostUriPort => exact (refines_optional hR (hR.natural _ _) h).map_eq _
  case keyedGroups => exact (refines_groups hR h).map_eq _

end Setting

/-- No setting tells related values apart. -/
theorem Config.respects_schema (hR : Respects R) :
    Schema.Respects (schema : Schema α Field Setting) R where
  read f _ _ h := Setting.refines_read hR f h
  skip := hR.skip

end Respects

/-! ## Configurations -/

/-- Settings of different fields make the same configuration in any order. -/
theorem Config.assemble_perm (missing : Field → String → Problem)
    {settings settings' : List Setting} (order : settings.Perm settings')
    (once : (settings.map Setting.field).Nodup) :
    assemble missing settings = assemble missing settings' := by
  have pick {β : Type} {pick : Setting → Option β} (f : Field)
      (only : ∀ s, s.field ≠ f → pick s = none) :
      settings.findSome? pick = settings'.findSome? pick :=
    Setting.findSome?_perm order once f only
  unfold assemble
  rw [pick .plugin, pick .dockerHost, pick .verboseOutput, pick .tls, pick .validateCerts,
    pick .clientKey, pick .caPath, pick .clientCert, pick .tlsHostname, pick .sslVersion,
    pick .apiVersion, pick .timeout, pick .useSshClient, pick .includeHostUri,
    pick .includeHostUriPort, pick .strict, pick .keyedGroups]
  all_goals
    intro s hs
    cases s <;> first | rfl | exact absurd rfl hs

end ContainerOps.Swarm
