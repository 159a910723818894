import Mathlib.Logic.Basic
import TemplateVariables.Settings

/-!
# Layered settings

The settings are read off the table that all files give together.  For each key this table holds
what the highest file that defines the key holds, so each setting has a file of its own and no
file below that one matters to it, provided that every file can be read.
-/

namespace TemplateVariables.Settings

/-- The keys that settings are looked up under. -/
def keys : List String := ["debug", "globals"]

namespace Format

/-- What settings can make of a value: the switch and the names that it gives. -/
def uses (format : Format) (value : format.Value) : Option Bool × Option (List String) :=
  (format.switch? value, format.names? value)

/-- What loading relies on: a table that is laid over another one goes before it key by key, as
far as settings can tell values apart, and an empty text is a file without keys. -/
structure Lawful (format : Format) : Prop where
  get?_empty : ∀ key, format.get? format.empty key = none
  get?_override : ∀ below above key,
    (format.get? (format.override below above) key).map format.uses =
      ((format.get? above key).or (format.get? below key)).map format.uses
  ofText?_empty : ∃ table, format.ofText? "" = some table ∧ ∀ key, format.get? table key = none

/-- Whether the file has a text of the format, if it is there. -/
def isReadable (format : Format) (source : Option String) : Bool :=
  source.all fun text => (format.ofText? text).isSome

/-- What the file defines a key as, if it is there and does. -/
def entry (format : Format) (key : String) (source : Option String) : Option format.Value :=
  (source.bind format.ofText?).bind (format.get? · key)

/-- What the highest file that defines a key defines it as. -/
def winner (format : Format) (files : Files) (key : String) : Option format.Value :=
  (format.entry key files.project).or
    ((format.entry key files.hidden).or (format.entry key files.user))

end Format

variable {format : Format}

/-! ## Laying tables over one another -/

namespace Format

theorem exists_unreadable_text {source : Option String} (hsource : ¬ format.isReadable source) :
    ∃ text, source = some text ∧ format.ofText? text = none := by
  cases source with
  | none => exact absurd rfl hsource
  | some text => exact ⟨text, rfl, by simpa [isReadable] using hsource⟩

theorem entry_eq_get? {text : String} {table : format.Table}
    (htable : format.ofText? text = some table) (key : String) :
    format.entry key (some text) = format.get? table key := by
  simp [entry, htable]

theorem Lawful.isReadable_empty (hlawful : format.Lawful) : format.isReadable (some "") := by
  obtain ⟨table, htable, -⟩ := hlawful.ofText?_empty
  simp [isReadable, htable]

theorem Lawful.entry_empty (hlawful : format.Lawful) (key : String) :
    format.entry key (some "") = none := by
  obtain ⟨table, htable, hnone⟩ := hlawful.ofText?_empty
  rw [entry_eq_get? htable, hnone]

/-- What the last source that defines a key defines it as. -/
def lastEntry (format : Format) (sources : List (Option String)) (key : String) :
    Option format.Value :=
  sources.reverse.findSome? (format.entry key)

theorem lastEntry_append (lower higher : List (Option String)) (key : String) :
    format.lastEntry (lower ++ higher) key =
      (format.lastEntry higher key).or (format.lastEntry lower key) := by
  rw [lastEntry, List.reverse_append, List.findSome?_append]
  rfl

theorem lastEntry_cons (source : Option String) (higher : List (Option String)) (key : String) :
    format.lastEntry (source :: higher) key =
      (format.lastEntry higher key).or (format.entry key source) := by
  rw [lastEntry, List.reverse_cons, List.findSome?_append, List.findSome?_singleton]
  rfl

theorem lastEntry_sources (files : Files) (key : String) :
    format.lastEntry files.sources key = format.winner files key := by
  rw [Files.sources, lastEntry_cons, lastEntry_cons, lastEntry_cons, winner, Option.or_assoc]
  rfl

theorem lastEntry_isSome {sources : List (Option String)} {key : String}
    (hdefined : ∃ source ∈ sources, (format.entry key source).isSome) :
    (format.lastEntry sources key).isSome := by
  simpa [lastEntry, List.findSome?_isSome_iff] using hdefined

theorem mapM_ofText?_eq_none {texts : List String} {text : String} (hmem : text ∈ texts)
    (hnone : format.ofText? text = none) : texts.mapM format.ofText? = none := by
  induction texts with
  | nil => exact absurd hmem List.not_mem_nil
  | cons first rest ih =>
      rw [List.mapM_cons]
      by_cases hfirst : text = first
      · subst first
        simp [hnone]
      · have hrest := ih (List.mem_of_ne_of_mem hfirst hmem)
        cases format.ofText? first <;> simp [hrest]

/-- When readable files are laid over a table, the last entry of a key is found under it. -/
theorem Lawful.foldl_override (hlawful : format.Lawful) {sources : List (Option String)}
    (hreadable : ∀ source ∈ sources, format.isReadable source) (base : format.Table) :
    ∃ tables, (sources.filterMap id).mapM format.ofText? = some tables ∧
      ∀ key, (format.get? (tables.foldl format.override base) key).map format.uses =
        ((format.lastEntry sources key).or (format.get? base key)).map format.uses := by
  induction sources generalizing base with
  | nil => exact ⟨[], rfl, fun key => rfl⟩
  | cons source higher ih =>
      have hhigher : ∀ source ∈ higher, format.isReadable source := fun source hmem =>
        hreadable source (List.mem_cons_of_mem _ hmem)
      cases source with
      | none =>
          obtain ⟨tables, htables, hget⟩ := ih hhigher base
          refine ⟨tables, htables, fun key => ?_⟩
          rw [hget, lastEntry_cons]
          simp [entry]
      | some text =>
          obtain ⟨table, htable⟩ :=
            Option.isSome_iff_exists.mp (hreadable (some text) List.mem_cons_self)
          obtain ⟨tables, htables, hget⟩ := ih hhigher (format.override base table)
          refine ⟨table :: tables, ?_, fun key => ?_⟩
          · rw [List.filterMap_cons_some (show id (some text) = some text from rfl), List.mapM_cons,
              htable, htables]
            rfl
          -- The table goes before the base and behind the higher files.
          · rw [List.foldl_cons, hget, Option.map_or, hlawful.get?_override, ← Option.map_or,
              lastEntry_cons, entry_eq_get? htable, Option.or_assoc]

end Format

/-! ## Settings from values -/

section values

variable {Value α : Type} {key : String} {convert? : Value → Option α} {default result : α}
  {value : Option Value}

theorem setting_eq_ok_iff :
    setting key convert? default value = .ok result ↔
      value.elim (some default) convert? = some result := by
  cases value with
  | none => simp [setting]
  | some value => cases hconvert : convert? value <;> simp [setting, hconvert]

theorem setting_eq_error_iff :
    (∃ failure, setting key convert? default value = .error failure) ↔
      ∃ unfit, value = some unfit ∧ convert? unfit = none := by
  cases value with
  | none => simp [setting]
  | some value => cases hconvert : convert? value <;> simp [setting, hconvert]

theorem setting_map {Use : Type} (convert? : Use → Option α) (use : Value → Use) :
    setting key convert? default (value.map use) =
      setting key (fun value => convert? (use value)) default value := by
  cases value <;> rfl

end values

section ofValues

variable {value? value?' : String → Option format.Value}

/-- Values that settings cannot tell apart give the same settings. -/
theorem ofValues_congr
    (hsame : ∀ key ∈ keys, (value? key).map format.uses = (value?' key).map format.uses) :
    ofValues format value? = ofValues format value?' := by
  have hdebug := congrArg (setting "debug" Prod.fst false) (hsame "debug" (by simp [keys]))
  have hglobals := congrArg (setting "globals" Prod.snd []) (hsame "globals" (by simp [keys]))
  rw [setting_map, setting_map] at hdebug hglobals
  unfold Format.uses at hdebug hglobals
  rw [ofValues, ofValues, hdebug, hglobals]

theorem ofValues_eq_ok_iff {settings : Settings} :
    ofValues format value? = .ok settings ↔
      (value? "debug").elim (some false) format.switch? = some settings.debug ∧
        (value? "globals").elim (some []) format.names? = some settings.globals := by
  have hdebug : setting "debug" format.switch? false (value? "debug") = .ok settings.debug ↔
      (value? "debug").elim (some false) format.switch? = some settings.debug :=
    setting_eq_ok_iff
  have hglobals : setting "globals" format.names? [] (value? "globals") = .ok settings.globals ↔
      (value? "globals").elim (some []) format.names? = some settings.globals :=
    setting_eq_ok_iff
  rw [← hdebug, ← hglobals, ofValues]
  cases setting "debug" format.switch? false (value? "debug") with
  | error failure => simp [bind, Except.bind]
  | ok debug =>
      cases setting "globals" format.names? [] (value? "globals") with
      | error failure => simp [bind, Except.bind]
      | ok globals =>
          cases settings
          simp [bind, Except.bind, pure, Except.pure]

theorem ofValues_eq_error_iff :
    (∃ failure, ofValues format value? = .error failure) ↔
      (∃ value, value? "debug" = some value ∧ format.switch? value = none) ∨
        ∃ value, value? "globals" = some value ∧ format.names? value = none := by
  have hdebug :
      (∃ failure, setting "debug" format.switch? false (value? "debug") = .error failure) ↔
        ∃ value, value? "debug" = some value ∧ format.switch? value = none :=
    setting_eq_error_iff
  have hglobals :
      (∃ failure, setting "globals" format.names? [] (value? "globals") = .error failure) ↔
        ∃ value, value? "globals" = some value ∧ format.names? value = none :=
    setting_eq_error_iff
  rw [← hdebug, ← hglobals, ofValues]
  cases setting "debug" format.switch? false (value? "debug") with
  | error failure => simp [bind, Except.bind]
  | ok debug =>
      cases setting "globals" format.names? [] (value? "globals") <;>
        simp [bind, Except.bind, pure, Except.pure]

end ofValues

/-! ## Loading -/

section loading

variable (hlawful : format.Lawful) {files files' : Files}

theorem loadAs_eq_malformed (hunreadable : ∃ source ∈ files.sources, ¬ format.isReadable source) :
    loadAs format files = .error .malformed := by
  obtain ⟨source, hsource, hnot⟩ := hunreadable
  obtain ⟨text, htext, hnone⟩ := Format.exists_unreadable_text hnot
  have hmem : text ∈ files.rising := List.mem_filterMap.mpr ⟨source, hsource, htext⟩
  rw [loadAs, Format.mapM_ofText?_eq_none hmem hnone]

include hlawful

theorem loadAs_eq_ofValues (hreadable : ∀ source ∈ files.sources, format.isReadable source) :
    loadAs format files = ofValues format (format.winner files) := by
  obtain ⟨tables, htables, hget⟩ := hlawful.foldl_override hreadable format.empty
  rw [loadAs, Files.rising, htables]
  apply ofValues_congr
  intro key _
  rw [hget, hlawful.get?_empty, Option.or_none, Format.lastEntry_sources]

/-- A readable file may be exchanged for another one, if each setting that they do not agree on
is defined by a higher file. -/
theorem loadAs_eq_of_exchange {lower higher : List (Option String)} {old new : Option String}
    (hfiles : files.sources = lower ++ old :: higher)
    (hfiles' : files'.sources = lower ++ new :: higher)
    (hold : format.isReadable old) (hnew : format.isReadable new)
    (hsame : ∀ key ∈ keys, format.entry key old = format.entry key new ∨
      ∃ source ∈ higher, (format.entry key source).isSome) :
    loadAs format files = loadAs format files' := by
  by_cases hothers : ∀ source ∈ lower ++ higher, format.isReadable source
  · rw [List.forall_mem_append] at hothers
    have hreadable : ∀ source ∈ files.sources, format.isReadable source := by
      rw [hfiles, List.forall_mem_append, List.forall_mem_cons]
      exact ⟨hothers.1, hold, hothers.2⟩
    have hreadable' : ∀ source ∈ files'.sources, format.isReadable source := by
      rw [hfiles', List.forall_mem_append, List.forall_mem_cons]
      exact ⟨hothers.1, hnew, hothers.2⟩
    rw [loadAs_eq_ofValues hlawful hreadable, loadAs_eq_ofValues hlawful hreadable']
    apply ofValues_congr
    intro key hkey
    rw [← Format.lastEntry_sources, ← Format.lastEntry_sources, hfiles, hfiles',
      Format.lastEntry_append, Format.lastEntry_append, Format.lastEntry_cons,
      Format.lastEntry_cons]
    cases hsame key hkey with
    | inl heq => rw [heq]
    | inr hdefined =>
        obtain ⟨value, hvalue⟩ :=
          Option.isSome_iff_exists.mp (Format.lastEntry_isSome hdefined)
        rw [hvalue]
        rfl
  -- A further file that cannot be read fails both loads.
  · simp only [not_forall, exists_prop] at hothers
    obtain ⟨source, hsource, hnot⟩ := hothers
    have hmem : ∀ middle, source ∈ lower ++ middle :: higher := by
      intro middle
      rw [List.mem_append] at hsource
      cases hsource with
      | inl hlower => exact List.mem_append_left _ hlower
      | inr hhigher => exact List.mem_append_right _ (List.mem_cons_of_mem _ hhigher)
    rw [loadAs_eq_malformed ⟨source, hfiles ▸ hmem old, hnot⟩,
      loadAs_eq_malformed ⟨source, hfiles' ▸ hmem new, hnot⟩]

/-- A file that cannot be read fails the load.  Otherwise each setting has the value of the highest
file that defines its key, or its default, and the load fails only for values that settings cannot
be made of.  So nothing that a higher file defines matters, nor does any other key, and an empty
file is as good as none. -/
theorem loadAs_by_priority :
    (∀ files : Files, (∃ source ∈ files.sources, ¬ format.isReadable source) →
      loadAs format files = .error .malformed) ∧
    (∀ files : Files, (∀ source ∈ files.sources, format.isReadable source) →
      (∀ settings, loadAs format files = .ok settings ↔
        (format.winner files "debug").elim (some false) format.switch? = some settings.debug ∧
          (format.winner files "globals").elim (some []) format.names? = some settings.globals) ∧
      ((∃ failure, loadAs format files = .error failure) ↔
        (∃ value, format.winner files "debug" = some value ∧ format.switch? value = none) ∨
          ∃ value, format.winner files "globals" = some value ∧ format.names? value = none)) ∧
    (∀ (files files' : Files) (lower higher : List (Option String)) (old new : Option String),
      files.sources = lower ++ old :: higher → files'.sources = lower ++ new :: higher →
      format.isReadable old → format.isReadable new →
      (∀ key ∈ keys, format.entry key old = format.entry key new ∨
        ∃ source ∈ higher, (format.entry key source).isSome) →
      loadAs format files = loadAs format files') ∧
    ∀ (files files' : Files) (lower higher : List (Option String)),
      files.sources = lower ++ none :: higher → files'.sources = lower ++ some "" :: higher →
      loadAs format files = loadAs format files' := by
  refine ⟨fun files hunreadable => loadAs_eq_malformed hunreadable,
    fun files hreadable => ?_,
    fun files files' lower higher old new hfiles hfiles' hold hnew hsame =>
      loadAs_eq_of_exchange hlawful hfiles hfiles' hold hnew hsame,
    fun files files' lower higher hfiles hfiles' => ?_⟩
  · rw [loadAs_eq_ofValues hlawful hreadable]
    exact ⟨fun settings => ofValues_eq_ok_iff, ofValues_eq_error_iff⟩
  · apply loadAs_eq_of_exchange hlawful hfiles hfiles' rfl hlawful.isReadable_empty
    intro key _
    exact Or.inl (hlawful.entry_empty key).symm

end loading

/-! ## TOML files -/

theorem ofString?_empty : Toml.Document.ofString? "" = some ⟨[⟨[], []⟩]⟩ := by
  have htokens : Toml.Token.ofChars? "".toList = some [] := by
    rw [String.toList_empty, Toml.Token.ofChars?]
  have hlines : Toml.lines? [] = some [] := by
    rw [Toml.lines?]
    rfl
  rw [Toml.Document.ofString?, htokens]
  simp only [bind, Option.bind_some, hlines]
  rfl

theorem lawful_toml : toml.Lawful where
  get?_empty key := rfl
  get?_override below above key := rfl
  ofText?_empty := by
    refine ⟨Toml.Document.get? ⟨[⟨[], []⟩]⟩, ?_, fun key => rfl⟩
    exact congrArg (Option.map Toml.Document.get?) ofString?_empty

/-- A value of the wrong kind that another file goes before, an array that replaces another one, a
key of no setting, an empty file, and a text that is not a document. -/
theorem loadAs_by_priority_overridden :
    let files : Files :=
      { user := some "debug = []\nglobals = ['a', 'b']"
        hidden := some "globals = ['c']\ncolour = 1"
        project := some "debug = true" }
    toml.Lawful ∧ load files = .ok ⟨true, ["c"]⟩ ∧
      load { files with user := some "debug = 'on'" } = load files ∧
      load { files with hidden := none } = load { files with hidden := some "" } ∧
      (∃ failure, load { files with project := none } = .error failure) ∧
      load { files with user := some "debug" } = .error .malformed := by
  intro files
  obtain ⟨hmalformed, hload, hexchange, hempty⟩ := loadAs_by_priority lawful_toml
  refine ⟨lawful_toml, ?_, ?_, ?_, ?_, ?_⟩
  · exact ((hload files (by decide +kernel)).1 ⟨true, ["c"]⟩).mpr (by decide +kernel)
  · have hoverridden : ∀ key ∈ keys,
        ∃ source ∈ [files.hidden, files.project], (toml.entry key source).isSome := by
      decide +kernel
    exact hexchange { files with user := some "debug = 'on'" } files []
      [files.hidden, files.project] (some "debug = 'on'") files.user rfl rfl (by decide +kernel)
      (by decide +kernel) fun key hkey => Or.inr (hoverridden key hkey)
  · exact hempty _ _ [files.user] _ rfl rfl
  · have hunfit : (toml.winner { files with project := none } "debug").any
        (fun value => (toml.switch? value).isNone) = true := by
      decide +kernel
    obtain ⟨value, hvalue, hnone⟩ := (Option.any_eq_true _ _).mp hunfit
    exact (hload _ (by decide +kernel)).2.mpr
      (Or.inl ⟨value, hvalue, Option.isNone_iff_eq_none.mp hnone⟩)
  · exact hmalformed _ ⟨some "debug", List.mem_cons_self, by decide +kernel⟩

end TemplateVariables.Settings
