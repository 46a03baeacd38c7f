import MeshScript.Settings.Layered
import MeshScript.Proofs.FileSystem.Places
import MeshScript.Proofs.Settings.KeyPath
import MeshScript.Proofs.Settings.Library
/-!
# MeshScript.Proofs.Settings.Layered -- merging trees keeps the promises

`layered_documented` says that the library that merges trees does what `Library.Documented`
promises. Each setting has its place in a tree: a name in a section. Merging a section goes key by
key, so it changes the settings that it has a text for and no other (`text?_mergeSection`), and so
does merging a document with both sections (`text?_mergeFile`). Setting one field by its key changes
that field only (`text?_mergeAt`). A tree that has a text at all five places is decoded.
-/

namespace MeshScript.Settings

theorem Field.isIdentifier (field : Field) :
    IsIdentifier field.table ∧ IsIdentifier field.name := by
  cases field <;> decide

/-- The key of a setting is a key path to its place. -/
theorem Field.parse?_key (field : Field) :
    KeyPath.parse? field.key = some [.key field.table, .key field.name] :=
  KeyPath.parse?_dotted field.isIdentifier.1 field.isIdentifier.2

/-- The names of a setting are in lower case. -/
theorem Field.foldCase_eq (field : Field) :
    foldCase field.table = field.table ∧ foldCase field.name = field.name := by
  cases field <;> decide

/-! ## Keys and values -/

section Under

variable {α : Type} {key name : Text} {value : α} {rest : List (Text × α)}

theorem under?_cons :
    under? ((key, value) :: rest) name =
      if name = foldCase key then some value else under? rest name := by
  by_cases h : name = foldCase key
  · simp [under?, h]
  · simp [under?, List.lookup_cons, beq_false_of_ne h, h]

/-- What is found under a name is one of the values. -/
theorem mem_of_under?_eq_some {fields : List (Text × α)} (h : under? fields name = some value) :
    ∃ key, (key, value) ∈ fields := by
  induction fields with
  | nil => cases h
  | cons entry rest ih =>
    obtain ⟨key, first⟩ := entry
    rw [under?_cons] at h
    split at h
    · cases h
      exact ⟨key, List.mem_cons_self⟩
    · obtain ⟨other, hmem⟩ := ih h
      exact ⟨other, List.mem_cons_of_mem _ hmem⟩

/-- Of distinct keys the first one does not come back. -/
theorem DistinctKeys.under?_eq_none (h : DistinctKeys ((key, value) :: rest)) :
    under? rest (foldCase key) = none := by
  rw [under?, List.lookup_eq_none_iff]
  rintro ⟨_, other⟩ hmem
  obtain ⟨⟨key', _⟩, hrest, heq⟩ := List.mem_map.1 hmem
  cases heq
  rw [bne_iff_ne]
  intro hsame
  exact (List.nodup_cons.1 h).1 (List.mem_map.2 ⟨(key', other), hrest, hsame.symm⟩)

theorem DistinctKeys.tail (h : DistinctKeys ((key, value) :: rest)) : DistinctKeys rest :=
  (List.nodup_cons.1 h).2

end Under

theorem eq_string_of_isText {value : Toml.Value} (h : isText value = true) :
    ∃ text, value = .string text := by
  cases value with
  | string text => exact ⟨text, rfl⟩
  | _ => cases h

namespace Tree

/-- The text at the place of a setting. -/
def text? (tree : Tree) (field : Field) : Option Text :=
  (tree.at? field).bind asText?

/-! ## Merging -/

variable {tree : Tree}

/-- A table that is not there has nothing under a key, and neither has an empty one. -/
theorem child?_getD {fallback : Tree} (h : ∀ name, fallback.child? name = none)
    (found : Option Tree) (name : Text) :
    (found.getD fallback).child? name = found.bind (·.child? name) := by
  cases found with
  | none => exact h name
  | some child => rfl

/-- **Single values go over a tree key by key**: under each name the new value if there is one. -/
theorem child?_mergeFields {fields : List (Text × Tree)}
    (hscalar : ∀ entry ∈ fields, ∃ origin? value, entry.2 = .scalar origin? value)
    (hdistinct : DistinctKeys fields) (name : Text) :
    (mergeFields fields tree).child? name = (under? fields name).or (tree.child? name) := by
  induction fields generalizing tree with
  | nil => rfl
  | cons entry rest ih =>
    obtain ⟨key, value⟩ := entry
    obtain ⟨origin?, single, rfl⟩ := hscalar _ List.mem_cons_self
    have hmerge : merge key (.scalar origin? single) tree =
        tree.put (foldCase key) (.scalar origin? single) := by
      simp only [merge]
    rw [mergeFields, ih (fun other hmem => hscalar other (List.mem_cons_of_mem _ hmem))
      hdistinct.tail, hmerge, child?_put, under?_cons]
    by_cases h : name = foldCase key
    · rw [if_pos h, if_pos h, h, hdistinct.under?_eq_none]
      rfl
    · rw [if_neg h, if_neg h]

theorem mergeFile_cons (key : Text) (value : Tree) (rest : List (Text × Tree)) (tree : Tree) :
    mergeFile ((key, value) :: rest) tree =
      mergeFile rest (mergeAt value ((KeyPath.parse? key).getD [.key key]) tree) := rfl

theorem ofTomlFields_eq_map (origin? : Option Path) (fields : List (Text × Toml.Value)) :
    ofTomlFields origin? fields = fields.map fun entry => (entry.1, ofToml origin? entry.2) := by
  induction fields with
  | nil => rfl
  | cons entry rest ih =>
    rw [ofTomlFields, ih]
    rfl

theorem under?_ofTomlFields (origin? : Option Path) (fields : List (Text × Toml.Value))
    (name : Text) :
    under? (ofTomlFields origin? fields) name = (under? fields name).map (ofToml origin?) := by
  rw [ofTomlFields_eq_map]
  induction fields with
  | nil => rfl
  | cons entry rest ih =>
    rw [List.map_cons, under?_cons, under?_cons, ih]
    split <;> rfl

theorem distinctKeys_ofTomlFields (origin? : Option Path) {fields : List (Text × Toml.Value)}
    (h : DistinctKeys fields) : DistinctKeys (ofTomlFields origin? fields) := by
  rw [DistinctKeys, ofTomlFields_eq_map, List.map_map]
  exact h

/-- **Merging a section** changes the texts that it has. -/
theorem text?_mergeSection (key : Text) {value : Toml.Value} (hsection : IsSection value)
    (origin? : Option Path) (field : Field) :
    (merge key (ofToml origin? value) tree).text? field =
      ((if field.table = foldCase key then some value else none).bind
        (textUnder? · field.name)).or (tree.text? field) := by
  obtain ⟨fields, rfl⟩ : ∃ fields, value = .table fields := by
    cases value with
    | table fields => exact ⟨fields, rfl⟩
    | _ => exact hsection.elim
  obtain ⟨htexts, hdistinct⟩ := hsection
  have hscalar : ∀ entry ∈ ofTomlFields origin? fields,
      ∃ origin? value, entry.2 = .scalar origin? value := by
    rw [ofTomlFields_eq_map, List.forall_mem_map]
    intro entry hmem
    obtain ⟨text, htext⟩ := eq_string_of_isText (htexts entry hmem)
    exact ⟨origin?, .text text, by rw [htext]; rfl⟩
  rw [text?, ofToml, merge, at?, child?_put]
  by_cases htable : field.table = foldCase key
  · rw [if_pos htable, if_pos htable, Option.bind_some, Option.bind_some,
      child?_mergeFields hscalar (distinctKeys_ofTomlFields origin? hdistinct),
      under?_ofTomlFields, child?_getD fun _ => rfl, ← htable]
    cases hunder : under? fields field.name with
    | none =>
      -- the section of the tree keeps what it has under the name
      simp only [textUnder?, hunder]
      rfl
    | some found =>
      obtain ⟨other, hmem⟩ := mem_of_under?_eq_some hunder
      obtain ⟨text, rfl⟩ := eq_string_of_isText (htexts _ hmem)
      simp only [textUnder?, hunder]
      rfl
  · rw [if_neg htable, if_neg htable]
    rfl

/-- **Merging a document** changes the texts that it has. -/
theorem text?_mergeFile {fields : List (Text × Toml.Value)} (hsections : SectionsOnly fields)
    (origin? : Option Path) (field : Field) :
    (tree.mergeFile (ofTomlFields origin? fields)).text? field =
      (field.textIn? fields).or (tree.text? field) := by
  induction fields generalizing tree with
  | nil => rfl
  | cons entry rest ih =>
    obtain ⟨key, value⟩ := entry
    obtain ⟨hname, hsection⟩ := hsections.1 _ List.mem_cons_self
    have hidentifier : IsIdentifier key := by
      apply IsIdentifier.of_foldCase
      rcases hname with hname | hname <;> rw [hname]
      · exact (Field.isIdentifier .scratchDir).1
      · exact (Field.isIdentifier .outputDir).1
    have hrest : SectionsOnly rest :=
      ⟨fun other hmem => hsections.1 other (List.mem_cons_of_mem _ hmem), hsections.2.tail⟩
    rw [ofTomlFields, mergeFile_cons, KeyPath.parse?_identifier hidentifier, Option.getD_some,
      mergeAt, ih hrest, text?_mergeSection key hsection, ← Option.or_assoc]
    congr 1
    -- a section that is merged now is not among the rest
    rw [Field.textIn?, Field.textIn?, under?_cons]
    split
    · rename_i htable
      rw [htable, hsections.2.under?_eq_none]
      rfl
    · exact Option.or_none

/-- **Setting a field by its key** changes the text of that field only. -/
theorem text?_mergeAt (field : Field) (text : Text) (other : Field) :
    (mergeAt (.scalar none (.text text)) [.key field.table, .key field.name] tree).text? other =
      if other = field then some text else tree.text? other := by
  have hmerged : mergeAt (.scalar none (.text text)) [.key field.table, .key field.name] tree =
      tree.put field.table (((tree.child? field.table).getD null).put field.name
        (.scalar none (.text text))) := by
    simp only [mergeAt, merge, field.foldCase_eq.1, field.foldCase_eq.2]
  rw [hmerged, text?, at?, child?_put]
  by_cases hsame : other = field
  · rw [hsame, if_pos rfl, if_pos rfl, Option.bind_some, child?_put, if_pos rfl]
    rfl
  · rw [if_neg hsame]
    split
    · -- another name in the same section
      rename_i htable
      have hname : other.name ≠ field.name := fun hname => hsame (Field.eq_of_names htable hname)
      rw [Option.bind_some, child?_put, if_neg hname, child?_getD fun _ => rfl, ← htable]
      rfl
    · rfl

end Tree

/-! ## Decoding -/

/-- Going through keys of which each gives something gives all of that. -/
theorem filterMapM_map_eq_ok {ε α β γ : Type} {k : γ → α} {f : α → Except ε (Option β)}
    {g : γ → β} {list : List γ} (h : ∀ c ∈ list, f (k c) = .ok (some (g c))) :
    (list.map k).filterMapM f = .ok (list.map g) := by
  induction list with
  | nil => rfl
  | cons c rest ih =>
    rw [List.map_cons, List.filterMapM_cons, h c List.mem_cons_self,
      ih fun other hmem => h other (List.mem_cons_of_mem c hmem)]
    rfl

/-- A table that has a text for each field of a section is read. -/
theorem readTable_eq_ok {shape : Section} {fields : List (Text × Tree)} {members : List Field}
    {texts : Field → Text} (hmembers : shape.fields = members.map Field.name)
    (h : ∀ field ∈ members, (fields.lookup field.name).bind Tree.asText? = some (texts field)) :
    readTable shape fields = .ok (members.map fun field => (field.name, texts field)) := by
  have hfound : ∀ field ∈ members,
      ((members.map fun field => (field.name, texts field)).lookup field.name).isSome = true :=
    fun field hmem => List.lookup_isSome_iff.2
      ⟨_, List.mem_map.2 ⟨field, hmem, rfl⟩, beq_self_eq_true field.name⟩
  refine bind_eq_ok_iff.2 ⟨members.map fun field => (field.name, texts field), ?_, ?_⟩
  · rw [hmembers]
    apply filterMapM_map_eq_ok
    intro field hmem
    obtain ⟨item, hlookup, htext⟩ := Option.bind_eq_some_iff.1 (h field hmem)
    simp only [hlookup, fieldText, htext]
    rfl
  · have hmissing : (shape.fields.find? fun name =>
        ((members.map fun field => (field.name, texts field)).lookup name).isNone) = none := by
      rw [List.find?_eq_none, hmembers, List.forall_mem_map]
      intro field hmem
      rw [Bool.not_eq_true, Option.isNone_eq_false_iff]
      exact hfound field hmem
    rw [hmissing]
    rfl

namespace Tree

variable {tree : Tree} {texts : Field → Text}

/-- A section with a text for each of its settings is read. -/
theorem readSection_eq_ok {shape : Section} (first : Field) (members : List Field)
    (h : ∀ field ∈ first :: members, tree.text? field = some (texts field))
    (htable : ∀ field ∈ first :: members, field.table = shape.name)
    (hmembers : shape.fields = (first :: members).map Field.name) :
    readSection shape tree =
      .ok ((first :: members).map fun field => (field.name, texts field)) := by
  have hchild : ∀ field ∈ first :: members,
      ((tree.child? shape.name).bind (·.child? field.name)).bind asText? = some (texts field) :=
    fun field hmem => htable field hmem ▸ h field hmem
  -- the section is a table, since something is under the name of its first setting
  cases hsection : tree.child? shape.name with
  | none =>
    have hfirst := hchild first List.mem_cons_self
    rw [hsection] at hfirst
    cases hfirst
  | some child =>
    rw [hsection] at hchild
    cases child with
    | table origin? fields =>
      rw [readSection, hsection]
      exact readTable_eq_ok hmembers hchild
    | scalar origin? value => cases hchild first List.mem_cons_self
    | list origin? items => cases hchild first List.mem_cons_self

/-- **A tree with a text for each setting** is decoded. -/
theorem configuration_eq_ok (h : ∀ field, tree.text? field = some (texts field)) :
    ∃ configuration, tree.configuration = .ok configuration ∧ configuration.setting = texts := by
  have hscratch : readSection scratchSection tree = .ok _ :=
    readSection_eq_ok .scratchDir [.scriptName, .geometrySuffix, .geometryExtension]
      (fun field _ => h field) (by decide) rfl
  have houtput : readSection outputSection tree = .ok _ :=
    readSection_eq_ok .outputDir [] (fun field _ => h field)
      (by decide) rfl
  refine ⟨⟨⟨texts .scratchDir, texts .scriptName, texts .geometrySuffix,
    texts .geometryExtension⟩, ⟨texts .outputDir⟩⟩, ?_, ?_⟩
  · rw [configuration, hscratch, houtput]
    rfl
  · funext field
    cases field <;> rfl

end Tree

/-! ## The builder -/

variable {files : FileSystem} {sources : List Source} {tree : Tree}

/-- The builder with these sources is made of them alone. -/
theorem layered_ofSources (sources : List Source) :
    layered.ofSources sources = (⟨sources, []⟩ : Builder) := by
  have hfoldl : ∀ (builder : Builder) (sources : List Source),
      sources.foldl Builder.addSource builder =
        ⟨builder.sources ++ sources, builder.overrides⟩ := by
    intro builder sources
    induction sources generalizing builder with
    | nil => rw [List.append_nil, List.foldl_nil]
    | cons source rest ih =>
      rw [List.foldl_cons, ih, Builder.addSource, List.append_assoc, List.singleton_append]
  exact hfoldl {} sources

theorem build_eq_ok {builder : Builder} : Builder.build files builder = .ok tree ↔
    ∃ merged, builder.sources.foldlM (mergeSource files) Tree.empty = .ok merged ∧
      Builder.applyOverrides builder.overrides merged = tree := by
  refine bind_eq_ok_iff.trans (exists_congr fun merged => and_congr_right fun _ => ?_)
  exact ⟨Except.ok.inj, congrArg Except.ok⟩

/-- A plain source is merged, and changes the texts that it has. -/
theorem mergeSource_eq_ok {source : Source} {fields : List (Text × Toml.Value)}
    (hreads : layered.Reads files source fields) (hsections : SectionsOnly fields) (tree : Tree) :
    ∃ merged, mergeSource files tree source = .ok merged ∧ ∀ field,
      merged.text? field = (field.textIn? fields).or (tree.text? field) := by
  have hdocument : ∀ (origin? : Option Path) (text : Text),
      Toml.parse? text = some (.table fields) →
      ∃ merged, mergeDocument origin? text tree = .ok merged ∧ ∀ field,
        merged.text? field = (field.textIn? fields).or (tree.text? field) := by
    intro origin? text hparse
    refine ⟨_, ?_, Tree.text?_mergeFile hsections origin?⟩
    rw [mergeDocument, hparse, Option.map_some, Tree.ofToml]
  cases source with
  | text text => exact hdocument none text hreads
  | file path required =>
    rcases hreads with ⟨rfl, habsent, rfl⟩ | ⟨found, text, hfound, htext, hparse⟩
    · have habsent : findFile? files path = none := habsent
      refine ⟨tree, ?_, fun field => rfl⟩
      rw [mergeSource, habsent]
      rfl
    · have hfound : findFile? files path = some found := hfound
      obtain ⟨merged, hmerged, htexts⟩ := hdocument (originOf files found) text hparse
      refine ⟨merged, ?_, htexts⟩
      simp only [mergeSource, hfound, htext]
      exact hmerged

theorem setOverride_key_eq (builder : Builder) (field : Field) (text : Text) :
    builder.setOverride field.key (.text text) = .ok { builder with
      overrides := builder.overrides ++ [([.key field.table, .key field.name], .text text)] } := by
  rw [Builder.setOverride, field.parse?_key]

/-- The built-in text has the built-in settings. -/
theorem parse?_defaultText : ∃ fields, Toml.parse? defaultText = some (.table fields) ∧
    SectionsOnly fields ∧ ∀ field, field.textIn? fields = some (({} : Layout).setting field) := by
  have hparse : (((Toml.parse? defaultText).bind fieldsOf?).any fun fields =>
      decide (SectionsOnly fields ∧ ∀ field ∈ Field.all,
        field.textIn? fields = some (({} : Layout).setting field))) = true := by
    decide +kernel
  obtain ⟨fields, hfields, hall⟩ := (Option.any_eq_true _ _).1 hparse
  obtain ⟨value, hvalue, htable⟩ := Option.bind_eq_some_iff.1 hfields
  obtain ⟨hsections, htexts⟩ := of_decide_eq_true hall
  cases fieldsOf?_eq_some.1 htable
  exact ⟨fields, hvalue, hsections, fun field => htexts field field.mem_all⟩

/-- **The library that merges trees** keeps the promises. -/
theorem layered_documented : layered.Documented where
  parse?_defaultText := parse?_defaultText
  build_new files := ⟨Tree.empty, rfl, fun field => rfl⟩
  build_addSource {files sources built source fields} hbuilt hreads hsections := by
    rw [layered_ofSources] at hbuilt ⊢
    obtain ⟨before, hbefore, rfl⟩ := build_eq_ok.1 hbuilt
    obtain ⟨merged, hmerged, htexts⟩ := mergeSource_eq_ok hreads hsections before
    refine ⟨merged, build_eq_ok.2 ⟨merged, ?_, rfl⟩, htexts⟩
    show (sources ++ [source]).foldlM (mergeSource files) Tree.empty = _
    rw [List.foldlM_append, hbefore]
    show [source].foldlM (mergeSource files) before = _
    rw [List.foldlM_cons, hmerged]
    rfl
  setOverride_key builder field text := ⟨_, setOverride_key_eq builder field text⟩
  setOverride_addSource {builder next key value} source hnext := by
    have hnext : Builder.setOverride builder key value = .ok next := hnext
    show Builder.setOverride (Builder.addSource builder source) key value = _
    unfold Builder.setOverride at hnext ⊢
    split at hnext
    · cases hnext
      rfl
    · cases hnext
  build_setOverride {files builder next built field text} _ hbuilt hnext := by
    cases (setOverride_key_eq builder field text).symm.trans hnext
    obtain ⟨merged, hmerged, rfl⟩ := build_eq_ok.1 hbuilt
    refine ⟨_, build_eq_ok.2 ⟨merged, hmerged, rfl⟩, fun other => ?_⟩
    show (Builder.applyOverrides (builder.overrides ++ _) merged).text? other = _
    rw [Builder.applyOverrides, List.foldl_append]
    exact Tree.text?_mergeAt field text other
  decode_texts h := Tree.configuration_eq_ok h

end MeshScript.Settings
