import Mathlib.Data.List.Induction
import MeshScript.CommandLine
import MeshScript.Proofs.FileSystem.Places
import MeshScript.Proofs.Settings.Layered
/-!
# MeshScript.Proofs.Settings.Precedence -- which layer a setting comes from

Each setting goes its own way through the layers. Its text is that of the last override of its
key, wherever that stands among the files; without an override it is that of the last file that
sets it; and without such a file it is the built-in one (`load_precedence`). That holds with every
library of settings that keeps the promises of `Library.Documented`.

The promises are about one source and one override at a time. `Library.Made` keeps apart what a
builder got as sources and what it got as overrides. Each layer that is added extends one of the two
(`Library.Made.addLayer`), and so do all layers one after the other (`Library.Made.addLayers`); what
is built in the end has the text of an override, or else the last one of a source
(`Library.Made.build`).
-/

namespace MeshScript

open Settings

/-! ## What a layer says about a setting -/

namespace Settings.Library

variable (library : Library)

/-- The fields of a document. -/
def documentFields? (source : Text) : Option (List (Text × Toml.Value)) :=
  (library.parse? source).bind fieldsOf?

/-- The fields of the configuration file that is found under a path. -/
def fileFields? (files : FileSystem) (path : Path) : Option (List (Text × Toml.Value)) := do
  let found ← library.find? files path
  let source ← (files.readText found).toOption
  library.documentFields? source

/-- The text that the file found under a path has for a setting. -/
def fileText? (files : FileSystem) (field : Field) (path : Path) : Option Text :=
  (library.fileFields? files path).bind field.textIn?

/-- The text that a source has for a setting. -/
def sourceText? (files : FileSystem) (field : Field) : Source → Option Text
  | .text source => (library.documentFields? source).bind field.textIn?
  | .file path _ => library.fileText? files field path

end Settings.Library

namespace Layer

variable (library : Library)

/-- **A plain layer**: a file with nothing but texts in the two sections, or one that need not be
there and is not; or a text for one of the settings, under its key. -/
def IsPlain (files : FileSystem) : Layer → Prop
  | file path required =>
    (required = false ∧ library.find? files path = none) ∨
      ∃ fields, library.fileFields? files path = some fields ∧ SectionsOnly fields
  | override key value => ∃ field text, key = Field.key field ∧ value = .text text

/-- Whether a file that is there is plain can be found out by reading it. -/
theorem isPlain_of_any {library : Library} {files : FileSystem} {path : Path} {required : Bool}
    (h : ((library.fileFields? files path).any fun fields =>
      decide (SectionsOnly fields)) = true) :
    (file path required).IsPlain library files := by
  obtain ⟨fields, htable, hsections⟩ := (Option.any_eq_true _ _).1 h
  exact .inr ⟨fields, htable, of_decide_eq_true hsections⟩

/-- The source that a layer is, if it is a file. -/
def source? : Layer → Option Source
  | file path required => some (.file path required)
  | override _ _ => none

/-- The text that a layer has for a setting, if it is a file. -/
def fileText? (files : FileSystem) (field : Field) : Layer → Option Text
  | file path _ => library.fileText? files field path
  | override _ _ => none

/-- The text that a layer has for a setting, if it is an override. -/
def overrideText? (field : Field) : Layer → Option Text
  | override key (.text text) => if key = field.key then some text else none
  | override _ _ | file _ _ => none

/-- An override says something about the setting that it names, and about no other. -/
theorem overrideText?_key (field : Field) (text : Text) (other : Field) :
    (override field.key (.text text)).overrideText? other =
      if other = field then some text else none := by
  rw [overrideText?]
  by_cases hsame : other = field
  · rw [if_pos hsame, if_pos (congrArg Field.key hsame.symm)]
  · rw [if_neg hsame, if_neg fun hkey => hsame (Field.eq_of_key_eq hkey.symm)]

/-- The text of a file is the text of the source that it is. -/
theorem source?_bind_sourceText? (files : FileSystem) (field : Field) (layer : Layer) :
    layer.source?.bind (library.sourceText? files field) =
      layer.fileText? library files field := by
  cases layer <;> rfl

end Layer

namespace Settings

/-- **The text of the last file** that sets the setting. -/
def lastFile? (library : Library) (files : FileSystem) (field : Field) (layers : List Layer) :
    Option Text :=
  (layers.filterMap (·.fileText? library files field)).getLast?

/-- **The text of the last override** of the setting. -/
def lastOverride? (field : Field) (layers : List Layer) : Option Text :=
  (layers.filterMap (·.overrideText? field)).getLast?

/-- The last text that is given: the first one counts only if there is no other. -/
theorem getLast?_filterMap_cons {α β : Type} (f : α → Option β) (a : α) (rest : List α) :
    ((a :: rest).filterMap f).getLast? = (rest.filterMap f).getLast?.or (f a) := by
  rw [List.getLast?_filterMap, List.getLast?_filterMap, List.reverse_cons, List.findSome?_append,
    List.findSome?_singleton]

namespace Library

variable {library : Library} {files : FileSystem}

/-! ## Sources -/

/-- **A plain source**: it can be read, and has nothing but texts in the two sections. -/
def IsPlain (library : Library) (files : FileSystem) (source : Source) : Prop :=
  ∃ fields, library.Reads files source fields ∧ SectionsOnly fields

theorem documentFields?_eq_some {source : Text} {fields : List (Text × Toml.Value)} :
    library.documentFields? source = some fields ↔
      library.parse? source = some (.table fields) := by
  simp [documentFields?, Option.bind_eq_some_iff, fieldsOf?_eq_some]

/-- The texts of a source are those of the document that it is read as. -/
theorem Reads.sourceText?_eq {source : Source} {fields : List (Text × Toml.Value)}
    (h : library.Reads files source fields) (field : Field) :
    library.sourceText? files field source = field.textIn? fields := by
  cases source with
  | text text => rw [sourceText?, documentFields?_eq_some.2 h, Option.bind_some]
  | file path required =>
    rcases h with ⟨-, habsent, rfl⟩ | ⟨found, text, hfound, htext, hparse⟩
    · rw [sourceText?, fileText?, fileFields?, habsent]
      rfl
    · have hfields : library.fileFields? files path = some fields := by
        simp only [fileFields?, hfound, htext, Except.toOption, Option.bind_eq_bind,
          Option.bind_some, documentFields?_eq_some.2 hparse]
      rw [sourceText?, fileText?, hfields, Option.bind_some]

/-- A plain layer that is a source is a plain one. -/
theorem isPlain_of_layer {layer : Layer} {source : Source}
    (hplain : layer.IsPlain library files) (hsource : source ∈ layer.source?) :
    library.IsPlain files source := by
  cases layer with
  | override key value => cases hsource
  | file path required =>
    cases hsource
    rcases hplain with ⟨hoptional, habsent⟩ | ⟨fields, hfields, hsections⟩
    · exact ⟨[], .inl ⟨hoptional, habsent, rfl⟩, by decide⟩
    · obtain ⟨found, hfound, hfields⟩ := Option.bind_eq_some_iff.1 hfields
      obtain ⟨text, htext, hfields⟩ := Option.bind_eq_some_iff.1 hfields
      exact ⟨fields, .inr ⟨found, text, hfound, eq_ok_of_toOption htext,
        documentFields?_eq_some.1 hfields⟩, hsections⟩

theorem ofSources_append_singleton (sources : List Source) (source : Source) :
    library.ofSources (sources ++ [source]) =
      library.addSource (library.ofSources sources) source :=
  List.foldl_append

/-- **Plain sources are built**, and the last one with a text decides. -/
theorem Documented.build_ofSources (h : library.Documented) {sources : List Source}
    (hplain : ∀ source ∈ sources, library.IsPlain files source) :
    ∃ built, library.build files (library.ofSources sources) = .ok built ∧ ∀ field,
      library.text? built field =
        (sources.filterMap (library.sourceText? files field)).getLast? := by
  -- a source counts over those before it, so the last one is taken off first
  induction sources using List.reverseRecOn with
  | nil => exact h.build_new files
  | append_singleton rest source ih =>
    obtain ⟨before, hbefore, htexts⟩ := ih fun other hmem =>
      hplain other (List.mem_append_left _ hmem)
    obtain ⟨fields, hreads, hsections⟩ := hplain source (List.mem_append_right _ (.head _))
    obtain ⟨built, hbuilt, hnext⟩ := h.build_addSource hbefore hreads hsections
    refine ⟨built, by rw [ofSources_append_singleton, hbuilt], fun field => ?_⟩
    rw [hnext, htexts, ← hreads.sourceText?_eq, List.getLast?_filterMap, List.getLast?_filterMap,
      List.reverse_concat, List.findSome?_cons]
    cases library.sourceText? files field source <;> rfl

/-! ## Sources and overrides -/

/-- **What a builder is made of**: its sources, and the texts that its overrides give. -/
inductive Made (library : Library) (sources : List Source) :
    (Field → Option Text) → library.Builder → Prop
  | sources : Made library sources (fun _ => none) (library.ofSources sources)
  | override {texts : Field → Option Text} {builder next : library.Builder} {field : Field}
      {text : Text} :
      Made library sources texts builder →
      library.setOverride builder field.key (.text text) = .ok next →
      Made library sources (fun other => if other = field then some text else texts other) next

namespace Made

variable {sources : List Source} {texts : Field → Option Text} {builder : library.Builder}

theorem overridesSettings (hmade : library.Made sources texts builder) :
    library.OverridesSettings builder := by
  induction hmade with
  | sources => exact .sources _
  | override _ hnext ih => exact .override ih hnext

/-- A source is added to the sources, also behind overrides. -/
theorem addSource (h : library.Documented) (hmade : library.Made sources texts builder)
    (source : Source) :
    library.Made (sources ++ [source]) texts (library.addSource builder source) := by
  induction hmade with
  | sources =>
    rw [← ofSources_append_singleton]
    exact .sources
  | override _ hnext ih => exact .override ih (h.setOverride_addSource source hnext)

/-- **One layer** that is added is one more source, or one more override. -/
theorem addLayer (h : library.Documented) (hmade : library.Made sources texts builder)
    {layer : Layer} (hplain : layer.IsPlain library files) :
    ∃ next, Settings.addLayer library builder layer = .ok next ∧
      library.Made (sources ++ layer.source?.toList)
        (fun field => (layer.overrideText? field).or (texts field)) next := by
  cases layer with
  | file path required => exact ⟨_, rfl, hmade.addSource h _⟩
  | override key value =>
    obtain ⟨field, text, rfl, rfl⟩ := hplain
    obtain ⟨next, hnext⟩ := h.setOverride_key builder field text
    refine ⟨next, hnext, ?_⟩
    have htexts : (fun other => ((Layer.override field.key (.text text)).overrideText? other).or
        (texts other)) = fun other => if other = field then some text else texts other := by
      funext other
      rw [Layer.overrideText?_key]
      split <;> rfl
    rw [htexts, Layer.source?, Option.toList_none, List.append_nil]
    exact hmade.override hnext

/-- **All layers** one after the other: their files are more sources, and of their overrides the
last one of a setting counts. -/
theorem addLayers (h : library.Documented) {layers : List Layer}
    (hplain : ∀ layer ∈ layers, layer.IsPlain library files)
    (hmade : library.Made sources texts builder) :
    ∃ next, layers.foldlM (Settings.addLayer library) builder = .ok next ∧
      library.Made (sources ++ layers.filterMap Layer.source?)
        (fun field => (lastOverride? field layers).or (texts field)) next := by
  induction layers generalizing sources texts builder with
  | nil =>
    rw [List.filterMap_nil, List.append_nil]
    exact ⟨builder, rfl, hmade⟩
  | cons layer rest ih =>
    obtain ⟨next, hnext, hstep⟩ := hmade.addLayer h (hplain layer List.mem_cons_self)
    obtain ⟨last, hlast, hrest⟩ := ih (fun other hmem =>
      hplain other (List.mem_cons_of_mem layer hmem)) hstep
    refine ⟨last, by rw [List.foldlM_cons, hnext]; exact hlast, ?_⟩
    have hsources : sources ++ (layer :: rest).filterMap Layer.source? =
        sources ++ layer.source?.toList ++ rest.filterMap Layer.source? := by
      rw [List.append_assoc]
      cases layer <;> rfl
    simp only [hsources, lastOverride?, getLast?_filterMap_cons, Option.or_assoc]
    exact hrest

/-- **A builder is built**: each setting has the text of its override, or else the last one of a
source. -/
theorem build (h : library.Documented) (hmade : library.Made sources texts builder)
    (hplain : ∀ source ∈ sources, library.IsPlain files source) :
    ∃ built, library.build files builder = .ok built ∧ ∀ field, library.text? built field =
      (texts field).or (sources.filterMap (library.sourceText? files field)).getLast? := by
  induction hmade with
  | sources => exact h.build_ofSources hplain
  | override hbefore hnext ih =>
    obtain ⟨built, hbuilt, htexts⟩ := ih
    obtain ⟨result, hresult, hchanged⟩ :=
      h.build_setOverride hbefore.overridesSettings hbuilt hnext
    refine ⟨result, hresult, fun other => ?_⟩
    rw [hchanged, htexts]
    dsimp only
    split <;> rfl

end Made

/-! ## All layers -/

/-- The built-in text is a plain source, with the built-in settings. -/
theorem Documented.defaults (h : library.Documented) (files : FileSystem) :
    library.IsPlain files (.text defaultText) ∧ ∀ field,
      library.sourceText? files field (.text defaultText) =
        some (({} : Layout).setting field) := by
  obtain ⟨fields, hparse, hsections, htexts⟩ := h.parse?_defaultText
  have hreads : library.Reads files (.text defaultText) fields := hparse
  exact ⟨⟨fields, hreads, hsections⟩, fun field => by rw [hreads.sourceText?_eq, htexts]⟩

/-- **Plain layers load**, and each setting has the text of the layer that counts for it. -/
theorem Documented.load_eq_ok (h : library.Documented) {layers : List Layer}
    (hplain : ∀ layer ∈ layers, layer.IsPlain library files) :
    ∃ layout, load library files layers = .ok layout ∧ ∀ field, layout.setting field =
      ((lastOverride? field layers).or (lastFile? library files field layers)).getD
        (({} : Layout).setting field) := by
  obtain ⟨hdefault, hdefaults⟩ := h.defaults files
  have hstart : library.Made [.text defaultText] (fun _ => none) (start library) := .sources
  obtain ⟨builder, hbuilder, hmade⟩ := hstart.addLayers h hplain
  have hsources : ∀ source ∈ .text defaultText :: layers.filterMap Layer.source?,
      library.IsPlain files source := by
    intro source hmem
    rcases List.mem_cons.1 hmem with rfl | hmem
    · exact hdefault
    · obtain ⟨layer, hlayer, hsource⟩ := List.mem_filterMap.1 hmem
      exact isPlain_of_layer (hplain layer hlayer) hsource
  obtain ⟨built, hbuilt, htexts⟩ := hmade.build h hsources
  -- the built-in source has a text for every setting, so none is missing
  have hall : ∀ field, library.text? built field =
      some (((lastOverride? field layers).or (lastFile? library files field layers)).getD
        (({} : Layout).setting field)) := by
    intro field
    rw [htexts, List.singleton_append, getLast?_filterMap_cons, hdefaults, List.filterMap_filterMap,
      Option.or_none, ← Option.or_assoc, Option.or_some]
    simp only [Layer.source?_bind_sourceText?]
    rfl
  obtain ⟨configuration, hdecoded, hsetting⟩ := h.decode_texts hall
  refine ⟨configuration.layout, ?_, fun field => ?_⟩
  · exact bind_eq_ok_iff.2 ⟨builder, hbuilder, bind_eq_ok_iff.2 ⟨built, hbuilt,
      bind_eq_ok_iff.2 ⟨configuration, hdecoded, rfl⟩⟩⟩
  · rw [Configuration.setting_layout, hsetting]

end Library

/-! ## The program -/

/-- The text that the options of the program give to a setting. -/
def optionText? (given : CommandLine.Given) : Field → Option Text
  | .scratchDir => given.value? .scratchDir
  | .outputDir => given.value? .outputDir
  | .scriptName | .geometrySuffix | .geometryExtension => none

/-- The program gives an option as an override. -/
theorem lastOverride?_layers (given : CommandLine.Given) (field : Field) :
    lastOverride? field (CommandLine.layers (given.value? .config) (given.value? .scratchDir)
      (given.value? .outputDir)) = optionText? given field := by
  unfold optionText?
  generalize given.value? .config = config?
  generalize given.value? .scratchDir = scratchDir?
  generalize given.value? .outputDir = outputDir?
  cases config? <;> cases scratchDir? <;> cases outputDir? <;> cases field <;> rfl

/-- The program looks into the file named by an option after the local one. -/
theorem lastFile?_layers (library : Library) (files : FileSystem)
    (config? scratchDir? outputDir? : Option Text) (field : Field) :
    lastFile? library files field (CommandLine.layers config? scratchDir? outputDir?) =
      (config?.bind (library.fileText? files field)).or
        (library.fileText? files field CommandLine.localConfig) := by
  have hoverride : ∀ (key : Text) (dir? : Option Text),
      (dir?.toList.map fun dir => Layer.override key (.text dir)).filterMap
        (·.fileText? library files field) = [] := by
    intro key dir?
    cases dir? <;> rfl
  rw [lastFile?, CommandLine.layers, getLast?_filterMap_cons, List.filterMap_append,
    List.filterMap_append, hoverride, hoverride, List.append_nil, List.append_nil]
  congr 1
  cases config? with
  | none => rfl
  | some path =>
    cases hpath : library.fileText? files field path <;> simp [Layer.fileText?, hpath]

/-- **Precedence, setting by setting.** With a library that keeps its promises, plain layers in any
order load. Each setting has the text of the last override of its key, wherever that stands;
without one that of the last file that sets it; without such a file the built-in one. So for the
program an option goes over the file that is named by an option, that over the local file, and that
over the built-in settings. -/
theorem load_precedence {library : Library} (h : library.Documented) :
    (∀ (files : FileSystem) (layers : List Layer),
      (∀ layer ∈ layers, layer.IsPlain library files) →
      ∃ layout, load library files layers = .ok layout ∧ ∀ field, layout.setting field =
        ((lastOverride? field layers).or (lastFile? library files field layers)).getD
          (({} : Layout).setting field)) ∧
    ∀ (files : FileSystem) (given : CommandLine.Given),
      (Layer.file CommandLine.localConfig false).IsPlain library files →
      (∀ path ∈ given.value? .config, (Layer.file path true).IsPlain library files) →
      ∃ layout, CommandLine.loadSettings library files given = .ok layout ∧
        ∀ field, layout.setting field =
          ((optionText? given field).or
            (((given.value? .config).bind (library.fileText? files field)).or
              (library.fileText? files field CommandLine.localConfig))).getD
            (({} : Layout).setting field) := by
  refine ⟨fun files layers hplain => h.load_eq_ok hplain, fun files given hlocal hconfig => ?_⟩
  have hplain : ∀ layer ∈ CommandLine.layers (given.value? .config) (given.value? .scratchDir)
      (given.value? .outputDir), layer.IsPlain library files := by
    simp only [CommandLine.layers, List.mem_cons, List.mem_append, List.mem_map, Option.mem_toList]
    rintro layer (rfl | (⟨path, hpath, rfl⟩ | ⟨dir, -, rfl⟩) | ⟨dir, -, rfl⟩)
    · exact hlocal
    · exact hconfig path hpath
    · exact ⟨.scratchDir, dir, by decide, rfl⟩
    · exact ⟨.outputDir, dir, by decide, rfl⟩
  obtain ⟨layout, hlayout, hsetting⟩ := h.load_eq_ok hplain
  refine ⟨layout, hlayout, fun field => ?_⟩
  rw [hsetting, lastOverride?_layers, lastFile?_layers]

/-- A local configuration file, and another one that sets less. -/
def sampleSettings : FileSystem :=
  .ofList
    [ ([CommandLine.localConfig],
        .file (Text.encode ("[scratch]\ndir = \"a\"\nscript = \"a.geo\"\n" ++
          "[output]\ndir = \"a\"\n").toList)),
      (["user.toml".toList],
        .file (Text.encode
          "[Scratch]\nSCRIPT = \"b.geo\"\n[output]\ndir = \"b\"\n".toList)) ] []

/-- An override before the files that it goes over. -/
def sampleLayers : List Layer :=
  [ .override "output.dir".toList (.text "c".toList), .file CommandLine.localConfig false,
    .file "user.toml".toList true, .file "absent.toml".toList false ]

/-- The second file and a directory as options. -/
def sampleOptions : CommandLine.Given where
  values := [("config".toList, "user.toml".toList), ("output-dir".toList, "c".toList)]

/-- What both give: each setting from another layer. -/
def sampleSettled : Layout where
  scratchDir := "a".toList
  scriptName := "b.geo".toList
  outputDir := "c".toList

/-- The sample layers, and the same files with options of the program, when trees are merged. -/
theorem load_precedence_sample :
    load layered sampleSettings sampleLayers = .ok sampleSettled ∧
      CommandLine.loadSettings layered sampleSettings sampleOptions = .ok sampleSettled := by
  have hlocal : (Layer.file CommandLine.localConfig false).IsPlain layered sampleSettings :=
    Layer.isPlain_of_any (by decide +kernel)
  have huser : (Layer.file "user.toml".toList true).IsPlain layered sampleSettings :=
    Layer.isPlain_of_any (by decide +kernel)
  have hlayers : ∀ layer ∈ sampleLayers, layer.IsPlain layered sampleSettings := by
    simp only [sampleLayers, List.forall_mem_cons, List.not_mem_nil, false_imp_iff, implies_true,
      and_true]
    have habsent : findFile? sampleSettings "absent.toml".toList = none := by decide +kernel
    exact ⟨⟨.outputDir, _, by decide, rfl⟩, hlocal, huser, .inl ⟨rfl, habsent⟩⟩
  -- all settings at once, so that the files are read once
  have htexts : ∀ field ∈ Field.all,
      ((lastOverride? field sampleLayers).or
          (lastFile? layered sampleSettings field sampleLayers)).getD
          (({} : Layout).setting field) = sampleSettled.setting field ∧
        ((optionText? sampleOptions field).or
          (((sampleOptions.value? .config).bind (layered.fileText? sampleSettings field)).or
            (layered.fileText? sampleSettings field CommandLine.localConfig))).getD
          (({} : Layout).setting field) = sampleSettled.setting field := by
    decide +kernel
  obtain ⟨layout, hload, hsetting⟩ :=
    (load_precedence layered_documented).1 sampleSettings sampleLayers hlayers
  have hconfig : ∀ path ∈ sampleOptions.value? .config,
      (Layer.file path true).IsPlain layered sampleSettings := by
    have hvalue : sampleOptions.value? .config = some "user.toml".toList := by decide
    simp only [hvalue, Option.mem_some_iff, forall_eq']
    exact huser
  obtain ⟨layout', hload', hsetting'⟩ :=
    (load_precedence layered_documented).2 sampleSettings sampleOptions hlocal hconfig
  rw [hload, hload']
  constructor <;> refine congrArg Except.ok (Layout.ext_setting fun field => ?_)
  · rw [hsetting, (htexts field field.mem_all).1]
  · rw [hsetting', (htexts field field.mem_all).2]

end Settings

end MeshScript
