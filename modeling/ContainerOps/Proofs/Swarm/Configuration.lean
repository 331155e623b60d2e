import ContainerOps.Proofs.Swarm.Settings
import ContainerOps.Proofs.Yaml.Alike
import ContainerOps.Swarm.Loading
import Mathlib

/-!
# Configurations as unordered records

A configuration is written as a mapping, and means the same in whatever order its entries stand,
by whichever names its fields are called, and whatever is added under other keys.  Moving an entry
to another text moves its value to another place and can renumber what it refers to, so values
count as long as they say the same.

Main results:

- `Config.read_eq_ok_iff`: what the entries of a mapping are read as.
- `Config.Described.of_rearranged`: one change without consequence leaves the configuration.
- `Config.ofYaml_unordered`: texts whose entries differ in such changes hold the same configuration,
  no field comes twice, and the plugin is a known one.
-/

namespace ContainerOps.Swarm.Config

open ContainerOps.Decoding

/-! ## Changes without consequence -/

/-- The entries of a mapping. -/
abbrev Entries := List (String × Yaml.Value)

/-- One change of the entries of a configuration that makes no difference. -/
inductive Rearranged : Entries → Entries → Prop where
  /-- The entries stand in another order. -/
  | order {entries entries' : Entries} (h : entries.Perm entries') : Rearranged entries entries'
  /-- A field is called by another of its names. -/
  | rename (f : Field) (before after : Entries) {key key' : String} (value : Yaml.Value)
      (hkey : key ∈ f.names) (hkey' : key' ∈ f.names) :
      Rearranged (before ++ (key, value) :: after) (before ++ (key', value) :: after)
  /-- A value that is well formed is added under a key that names no field. -/
  | insert (before after : Entries) {key : String} {value : Yaml.Value}
      (unknown : ∀ f : Field, key ∉ f.names) (complete : value.node.isComplete = true) :
      Rearranged (before ++ after) (before ++ (key, value) :: after)
  /-- The values are written in another way or stand at other places. -/
  | restate {entries entries' : Entries}
      (h : List.Forall₂ (SameKey Yaml.Value.Alike) entries entries') : Rearranged entries entries'

/-! ## What entries are read as -/

/-- The schema of a configuration in YAML. -/
abbrev yamlSchema : Schema Yaml.Value Field Setting :=
  schema

/-- The entries give settings that make up a configuration. -/
def Described (c : Config) (entries : Entries) : Prop :=
  ∃ settings, yamlSchema.Yields [] entries settings ∧
    assemble (fun _ name => .missingField name) settings = .ok c

variable {c : Config} {entries entries' before between after : Entries}

/-- No field may come twice. -/
theorem once_ne_none (f : Field) : yamlSchema.once f ≠ none :=
  Option.some_ne_none _

/-- A value is read as a configuration if its fields are entries that describe it. -/
theorem read_eq_ok_iff {v : Yaml.Value} :
    read v = .ok c ↔
      ∃ entries, v.fields "InventoryConfig" = .ok (.named (entries.map .ok)) ∧
        Described c entries := by
  constructor
  · intro h
    unfold read readRecord at h
    dsimp only at h
    cases hfields : v.fields "InventoryConfig" with
    | error fault =>
      rw [show Source.fields schema.record v = .error fault from hfields] at h
      cases h
    | ok found =>
      rw [show Source.fields schema.record v = .ok found from hfields] at h
      obtain ⟨items, rfl⟩ := Yaml.Value.exists_named_of_fields hfields
      dsimp only at h
      split at h
      · cases h
      · next settings hsettings =>
        obtain ⟨entries, rfl, hyields⟩ := (collect_ok_iff once_ne_none _).mp hsettings
        exact ⟨entries, rfl, settings, hyields, mapError_eq_ok_iff.mp h⟩
  · rintro ⟨entries, hfields, settings, hyields, hassemble⟩
    have hsettings : collect yamlSchema (Source.blame v) [] (entries.map .ok) = .ok settings :=
      (collect_ok_iff once_ne_none _).mpr ⟨entries, rfl, hyields⟩
    unfold read readRecord
    dsimp only
    rw [show Source.fields schema.record v = _ from hfields]
    dsimp only
    rw [hsettings]
    exact mapError_eq_ok_iff.mpr hassemble

/-- A document that lists some entries holds the configuration that they describe. -/
theorem document_read_eq_ok_iff {d : Yaml.Document} (h : d.Lists entries) :
    d.read read = .ok c ↔ Described c entries := by
  rw [Yaml.Document.read_eq_ok_iff, read_eq_ok_iff, h.fields]
  constructor
  · rintro ⟨⟨found, hfound, hdescribed⟩, -⟩
    rw [Except.ok.injEq, Fields.named.injEq] at hfound
    rw [List.map_injective_iff.mpr (fun _ _ => Except.ok.inj) hfound]
    exact hdescribed
  · intro hdescribed
    exact ⟨⟨entries, rfl, hdescribed⟩, h.ended⟩

/-- A document that holds a configuration lists some entries. -/
theorem exists_lists_of_read {d : Yaml.Document} (h : d.read read = .ok c) :
    ∃ entries, d.Lists entries := by
  obtain ⟨hread, hended⟩ := Yaml.Document.read_eq_ok_iff.mp h
  obtain ⟨entries, hfields, settings, hyields, hassemble⟩ := read_eq_ok_iff.mp hread
  refine ⟨entries, Yaml.Document.lists_of_fields hended ?_ hfields⟩
  -- Without entries there are no settings, and the plugin is missing.
  rintro rfl
  obtain rfl := Schema.yields_nil_iff.mp hyields
  cases hassemble

/-! ## One change after another -/

/-- The settings that entries give are of different fields. -/
theorem nodup_fields {settings : List Setting} (h : yamlSchema.Yields [] entries settings) :
    (settings.map Setting.field).Nodup := by
  have hfields : settings.map Setting.field = yamlSchema.knownFields entries := by
    have hread := h.read.imp fun _ _ hs => Setting.field_of_read hs
    rw [← List.forall₂_eq_eq_eq, Schema.knownFields, List.forall₂_map_left_iff,
      List.forall₂_map_right_iff]
    exact hread.flip
  exact hfields ▸ h.once

/-- One change without consequence leaves the configuration that is described. -/
theorem Described.of_rearranged (h : Described c entries) (change : Rearranged entries entries') :
    Described c entries' := by
  obtain ⟨settings, hyields, hassemble⟩ := h
  cases change with
  | order horder =>
    obtain ⟨settings', hsettings, hyields'⟩ := hyields.perm horder
    refine ⟨settings', hyields', ?_⟩
    rw [← assemble_perm _ hsettings (nodup_fields hyields)]
    exact hassemble
  | rename f before after value hkey hkey' =>
    have hsame :=
      (Field.ofKey?_eq_some_iff.mpr hkey').trans (Field.ofKey?_eq_some_iff.mpr hkey).symm
    exact ⟨settings, hyields.rename hsame, hassemble⟩
  | insert before after unknown complete =>
    have hskip : Yaml.Value.skip _ = .ok () := if_pos complete
    exact ⟨settings, hyields.insert_unknown (Field.ofKey?_eq_none_iff.mpr unknown) hskip, hassemble⟩
  | restate hvalues =>
    have hrespects := respects_schema Yaml.Value.respects_alike
    exact ⟨settings, hyields.related once_ne_none hrespects hvalues, hassemble⟩

/-- Changes without consequence, one after another, leave the configuration. -/
theorem Described.of_rearrangements (h : Described c entries)
    (changes : Relation.ReflTransGen Rearranged entries entries') : Described c entries' := by
  induction changes with
  | refl => exact h
  | tail _ change ih => exact ih.of_rearranged change

/-- Entries that name a field twice describe nothing. -/
theorem not_described_of_twice {key key' : String} {value value' : Yaml.Value} {f : Field}
    (hkey : key ∈ f.names) (hkey' : key' ∈ f.names) :
    ¬ Described c (before ++ (key, value) :: between ++ (key', value') :: after) := by
  rintro ⟨settings, hyields, -⟩
  exact Schema.Yields.not_twice (Field.ofKey?_eq_some_iff.mpr hkey)
    (Field.ofKey?_eq_some_iff.mpr hkey') hyields

/-! ## Two spellings -/

/-- A text that is written without quotes. -/
def word (text : String) : Yaml.Scalar :=
  { text := text, style := .plain, tag := none }

/-- A mapping with a reference in it. -/
def referring : List (Yaml.Scalar × Yaml.Outline) :=
  [(word "plugin", .scalar none (word "docker_swarm")),
    (word "docker_host", .scalar (some 0) (word "x")),
    (word "tls_hostname", .reference 0)]

/-- The same without a reference, in another order, with another name and one more entry. -/
def respelled : List (Yaml.Scalar × Yaml.Outline) :=
  [(word "note", .sequence none [] true),
    (word "tls_hostname", .scalar none (word "x")),
    (word "docker_url", .scalar none (word "x")),
    (word "plugin", .scalar none (word "docker_swarm"))]

/-- The first mapping becomes the second by changes without consequence. -/
theorem rearranged_respelled :
    Relation.ReflTransGen Rearranged (Yaml.Document.entriesOf referring)
      (Yaml.Document.entriesOf respelled) := by
  let root := Yaml.Value.root (Yaml.Document.ofNodes referring).root
  let plugin := root.part (.field "plugin") (.scalar none (word "docker_swarm"))
  let host := root.part (.field "docker_host") (.scalar (some 0) (word "x"))
  let hostname := root.part (.field "tls_hostname") (.reference 0)
  let note := (Yaml.Value.root (Yaml.Document.ofNodes respelled).root).part (.field "note")
    (.sequence none [] true)
  have order : Rearranged (Yaml.Document.entriesOf referring)
      [("tls_hostname", hostname), ("docker_host", host), ("plugin", plugin)] :=
    .order (List.reverse_perm _).symm
  have rename : Rearranged
      [("tls_hostname", hostname), ("docker_host", host), ("plugin", plugin)]
      [("tls_hostname", hostname), ("docker_url", host), ("plugin", plugin)] :=
    .rename .dockerHost [_] [_] host (by decide) (by decide)
  have insert : Rearranged
      [("tls_hostname", hostname), ("docker_url", host), ("plugin", plugin)]
      [("note", note), ("tls_hostname", hostname), ("docker_url", host), ("plugin", plugin)] :=
    .insert [] _ (Field.ofKey?_eq_none_iff.mp (by decide)) rfl
  have restate : Rearranged
      [("note", note), ("tls_hostname", hostname), ("docker_url", host), ("plugin", plugin)]
      (Yaml.Document.entriesOf respelled) := by
    refine .restate (.cons ⟨rfl, ?_⟩ (.cons ⟨rfl, ?_⟩ (.cons ⟨rfl, ?_⟩ (.cons ⟨rfl, ?_⟩ .nil))))
    · exact Yaml.Value.alike_of_node_eq rfl rfl
    all_goals exact Yaml.Value.alike_of_scalar rfl rfl rfl
  exact (((Relation.ReflTransGen.single order).tail rename).tail insert).tail restate

/-! ## Texts -/

/-- A text holds a configuration if its document does, and the configuration is for the plugin. -/
theorem ofYaml_eq_ok_iff {text : String} :
    ofYaml text = .ok c ↔
      (Yaml.Reader.document text).read read = .ok c ∧ c.plugin ∈ pluginNames := by
  unfold ofYaml
  cases (Yaml.Reader.document text).read read with
  | error fault => simp
  | ok found =>
    dsimp only [forPlugin]
    split <;> grind

/-- Configurations are unordered records.  Texts whose entries differ in their order, in the names
of fields, in entries that name no field, or in how their values are written hold the same
configuration; a text that names a field twice holds none; and whatever is accepted is a mapping and
for a plugin with a known name. -/
theorem ofYaml_unordered :
    (∀ (text text' : String) (entries entries' : Entries) (c : Config),
      (Yaml.Reader.document text).Lists entries → (Yaml.Reader.document text').Lists entries' →
      Relation.ReflTransGen Rearranged entries entries' → ofYaml text = .ok c →
      ofYaml text' = .ok c) ∧
    (∀ (text : String) (before between after : Entries) (key key' : String)
      (value value' : Yaml.Value) (f : Field),
      (Yaml.Reader.document text).Lists
        (before ++ (key, value) :: between ++ (key', value') :: after) →
      key ∈ f.names → key' ∈ f.names → ∃ fault, ofYaml text = .error (.configParse fault)) ∧
    ∀ (text : String) (c : Config), ofYaml text = .ok c →
      c.plugin ∈ pluginNames ∧ ∃ entries, (Yaml.Reader.document text).Lists entries := by
  refine ⟨?_, ?_, ?_⟩
  · intro text text' entries entries' c hlists hlists' changes h
    obtain ⟨hread, hplugin⟩ := ofYaml_eq_ok_iff.mp h
    have hdescribed := (document_read_eq_ok_iff hlists).mp hread
    have hdescribed' := hdescribed.of_rearrangements changes
    exact ofYaml_eq_ok_iff.mpr ⟨(document_read_eq_ok_iff hlists').mpr hdescribed', hplugin⟩
  · intro text before between after key key' value value' f hlists hkey hkey'
    unfold ofYaml
    cases hread : (Yaml.Reader.document text).read read with
    | error fault => exact ⟨fault, rfl⟩
    | ok c =>
      exact absurd ((document_read_eq_ok_iff hlists).mp hread) (not_described_of_twice hkey hkey')
  · intro text c h
    obtain ⟨hread, hplugin⟩ := ofYaml_eq_ok_iff.mp h
    exact ⟨hplugin, exists_lists_of_read hread⟩

set_option maxRecDepth 10000 in
/-- One configuration in two spellings, and a text that names a field twice. -/
theorem ofYaml_unordered_of_respelled :
    ∃ c fault,
      ofYaml "plugin: docker_swarm\ndocker_host: &a x\ntls_hostname: *a" = .ok c ∧
      ofYaml "note: []\ntls_hostname: x\ndocker_url: x\nplugin: docker_swarm" = .ok c ∧
      c.plugin ∈ pluginNames ∧
      ofYaml "timeout: 1\ntime_out: 2" = .error (.configParse fault) := by
  have hreferring : Yaml.Reader.document
      "plugin: docker_swarm\ndocker_host: &a x\ntls_hostname: *a" = .ofNodes referring := by
    cbv
  have hrespelled : Yaml.Reader.document
      "note: []\ntls_hostname: x\ndocker_url: x\nplugin: docker_swarm" = .ofNodes respelled := by
    cbv
  have htwice : Yaml.Reader.document "timeout: 1\ntime_out: 2" =
      .ofNodes [(word "timeout", .scalar none (word "1")),
        (word "time_out", .scalar none (word "2"))] := by
    cbv
  have hok : ∃ c, ofYaml "plugin: docker_swarm\ndocker_host: &a x\ntls_hostname: *a" = .ok c := by
    rw [ofYaml, hreferring]
    exact ⟨_, rfl⟩
  obtain ⟨c, hok⟩ := hok
  obtain ⟨same, once, accepted⟩ := ofYaml_unordered
  obtain ⟨fault, hfault⟩ := once "timeout: 1\ntime_out: 2" [] [] [] "timeout" "time_out" _ _
    .timeout (htwice ▸ Yaml.Document.lists_ofNodes _) (by decide) (by decide)
  refine ⟨c, fault, hok, ?_, (accepted _ c hok).1, hfault⟩
  exact same _ _ _ _ c (hreferring ▸ Yaml.Document.lists_ofNodes referring)
    (hrespelled ▸ Yaml.Document.lists_ofNodes respelled) rearranged_respelled hok

end ContainerOps.Swarm.Config
