import Mathlib.Tactic.SplitIfs
import Roster.Settings.Resolve
import Roster.Text.Utf8

/-!
# Layers of settings

Settings files are laid over each other section by section, and where both have a section, field by field. Taken as layers, each of which speaks of some fields, the files and the command line come to this: a field has the value that the first layer gives to it which gives any, whatever sections it stands in (`Settings.load_layers`). What is checked in the end are these values.
-/

namespace Roster

open Text

namespace Settings

variable {α : Type}

/-! ### Layers -/

/-- What one source of settings says about the fields. -/
structure Layer where
  collation : Option Text
  maxLength : Option Nat
  url : Option Text
  defaultPageSize : Option UInt32
  maxPageSize : Option UInt32
deriving DecidableEq

def Overrides.layer (overrides : Overrides) : Layer where
  collation := overrides.collation
  maxLength := overrides.maxFilterLength
  url := overrides.databaseUrl
  defaultPageSize := none
  maxPageSize := none

def File.layer (file : File) : Layer where
  collation := file.filter.bind FilterSection.collation
  maxLength := file.filter.bind FilterSection.maxLength
  url := file.database.bind DatabaseSection.url
  defaultPageSize := file.page.bind PageSection.defaultSize
  maxPageSize := file.page.bind PageSection.maxSize

/-- A file that is not there says nothing. -/
def layerOf (file : Option File) : Layer := (file.getD .empty).layer

/-- The sources of settings, with the one that counts first in front: the command line, the file that is laid over the profile, and the profile. -/
def layersOf (overrides : Overrides) (overlay profile : Option File) : List Layer :=
  [overrides.layer, layerOf overlay, layerOf profile]

/-- What the first layer that says anything about a field says about it. -/
def firstSaid (field : Layer → Option α) (layers : List Layer) : Option α := layers.findSome? field

/-- Every field has its value from the first layer that speaks of it, or else its default. An address that is given is expanded. -/
def ofLayers (places : Places) (layers : List Layer) : Settings where
  collation := (firstSaid Layer.collation layers).getD defaultCollation
  maxLength := (firstSaid Layer.maxLength layers).getD defaultMaxLength
  url := ((firstSaid Layer.url layers).map (Path.expandUrl places)).getD defaultUrl
  defaultPageSize := (firstSaid Layer.defaultPageSize layers).getD Page.defaultSize
  maxPageSize := (firstSaid Layer.maxPageSize layers).getD Page.maxSize

/-- The settings hold what the layer says wherever the layers above it say nothing. -/
structure Layer.Kept (layer : Layer) (above : List Layer) (places : Places) (settings : Settings) : Prop where
  collation : (∀ l ∈ above, l.collation = none) → ∀ v, layer.collation = some v → settings.collation = v
  maxLength : (∀ l ∈ above, l.maxLength = none) → ∀ v, layer.maxLength = some v → settings.maxLength = v
  url : (∀ l ∈ above, l.url = none) → ∀ v, layer.url = some v → settings.url = Path.expandUrl places v
  defaultPageSize :
    (∀ l ∈ above, l.defaultPageSize = none) → ∀ v, layer.defaultPageSize = some v → settings.defaultPageSize = v
  maxPageSize : (∀ l ∈ above, l.maxPageSize = none) → ∀ v, layer.maxPageSize = some v → settings.maxPageSize = v

theorem firstSaid_nil (field : Layer → Option α) : firstSaid field [] = none := rfl

theorem firstSaid_cons (field : Layer → Option α) (layer : Layer) (below : List Layer) :
    firstSaid field (layer :: below) = (field layer).or (firstSaid field below) := by
  cases h : field layer <;> simp [firstSaid, h]

theorem firstSaid_append_cons {field : Layer → Option α} {above below : List Layer} {layer : Layer} {v : α}
    (habove : ∀ l ∈ above, field l = none) (h : field layer = some v) :
    firstSaid field (above ++ layer :: below) = some v := by
  rw [firstSaid, List.findSome?_append, List.findSome?_eq_none_iff.2 habove, List.findSome?_cons, h]
  rfl

theorem Layer.kept (layer : Layer) (above below : List Layer) (places : Places) :
    layer.Kept above places (ofLayers places (above ++ layer :: below)) := by
  constructor <;> intro habove v h <;> simp [ofLayers, firstSaid_append_cons habove h]

/-! ### Files over files -/

theorem bind_laidOver {σ : Type} {merge : σ → σ → σ} {field : σ → Option α}
    (h : ∀ lower upper, field (merge lower upper) = (field upper).or (field lower)) (lower upper : Option σ) :
    (File.laidOver merge lower upper).bind field = (upper.bind field).or (lower.bind field) := by
  cases lower <;> cases upper <;> simp [File.laidOver, h]

/-- Two layers as one. -/
def Layer.over (upper lower : Layer) : Layer where
  collation := upper.collation.or lower.collation
  maxLength := upper.maxLength.or lower.maxLength
  url := upper.url.or lower.url
  defaultPageSize := upper.defaultPageSize.or lower.defaultPageSize
  maxPageSize := upper.maxPageSize.or lower.maxPageSize

/-- A section of the upper file takes nothing from the lower file but the fields that it has itself. -/
theorem layer_overriddenBy (lower upper : File) : (lower.overriddenBy upper).layer = upper.layer.over lower.layer := by
  simp only [File.layer, File.overriddenBy, Layer.over, Layer.mk.injEq]
  exact ⟨bind_laidOver (fun _ _ => rfl) _ _, bind_laidOver (fun _ _ => rfl) _ _, bind_laidOver (fun _ _ => rfl) _ _,
    bind_laidOver (fun _ _ => rfl) _ _, bind_laidOver (fun _ _ => rfl) _ _⟩

theorem layer_merged (profile overlay : File) :
    ((File.empty.overriddenBy profile).overriddenBy overlay).layer = overlay.layer.over profile.layer := by
  rw [layer_overriddenBy, layer_overriddenBy]
  simp [Layer.over, File.layer, File.empty]

theorem ofLayers_over (places : Places) (top upper lower : Layer) :
    ofLayers places [top, upper.over lower] = ofLayers places [top, upper, lower] := by
  simp only [ofLayers, firstSaid_cons, Layer.over, Option.or_assoc]

/-! ### Checks -/

/-- The values that a filter can be compiled and a page be made with. -/
structure IsUsable (settings : Settings) : Prop where
  collation_ne_nil : settings.collation ≠ []
  mem_collation :
    ∀ c ∈ settings.collation, 'A' ≤ c ∧ c ≤ 'Z' ∨ 'a' ≤ c ∧ c ≤ 'z' ∨ '0' ≤ c ∧ c ≤ '9' ∨ c = '_'
  one_le_maxLength : 1 ≤ settings.maxLength
  one_le_defaultPageSize : 1 ≤ settings.defaultPageSize.toNat
  defaultPageSize_le : settings.defaultPageSize.toNat ≤ settings.maxPageSize.toNat

theorem isAlphanum_iff {c : Char} :
    c.isAlphanum = true ↔ ('A' ≤ c ∧ c ≤ 'Z' ∨ 'a' ≤ c ∧ c ≤ 'z') ∨ '0' ≤ c ∧ c ≤ '9' := by
  have hupper : c.isUpper = true ↔ 'A' ≤ c ∧ c ≤ 'Z' := decide_eq_true_iff
  have hlower : c.isLower = true ↔ 'a' ≤ c ∧ c ≤ 'z' :=
    Bool.and_eq_true_iff.trans (and_congr decide_eq_true_iff decide_eq_true_iff)
  have hdigit : c.isDigit = true ↔ '0' ≤ c ∧ c ≤ '9' :=
    Bool.and_eq_true_iff.trans (and_congr decide_eq_true_iff decide_eq_true_iff)
  have halpha : c.isAlpha = true ↔ c.isUpper = true ∨ c.isLower = true := Bool.or_eq_true_iff
  rw [← hupper, ← hlower, ← hdigit, ← halpha]
  exact Bool.or_eq_true_iff

theorem isCollation_iff {name : Text} :
    isCollation name = true ↔
      name ≠ [] ∧ ∀ c ∈ name, 'A' ≤ c ∧ c ≤ 'Z' ∨ 'a' ≤ c ∧ c ≤ 'z' ∨ '0' ≤ c ∧ c ≤ '9' ∨ c = '_' := by
  simp [isCollation, isAlphanum_iff, or_assoc]

/-- The settings, if they pass all checks. -/
def checked (settings : Settings) : Except Error Settings :=
  if !isCollation settings.collation then .error (.invalidCollation settings.collation)
  else if settings.maxLength = 0 then .error .zeroLength
  else if settings.maxPageSize = 0 ∨ settings.defaultPageSize = 0 then .error .zeroPageSize
  else if settings.maxPageSize < settings.defaultPageSize then
    .error (.pageSizes settings.defaultPageSize settings.maxPageSize)
  else .ok settings

theorem checked_of_isUsable {settings : Settings} (h : settings.IsUsable) : checked settings = .ok settings := by
  have hcollation : isCollation settings.collation = true := isCollation_iff.2 ⟨h.collation_ne_nil, h.mem_collation⟩
  have hlength : settings.maxLength ≠ 0 := Nat.pos_iff_ne_zero.1 h.one_le_maxLength
  have hpos := h.one_le_defaultPageSize
  have hle := h.defaultPageSize_le
  have hsizes : ¬(settings.maxPageSize = 0 ∨ settings.defaultPageSize = 0) := by
    rw [← UInt32.toNat_inj, ← UInt32.toNat_inj, UInt32.toNat_zero]
    omega
  have hmaximum : ¬settings.maxPageSize < settings.defaultPageSize := by
    rw [UInt32.lt_iff_toNat_lt]
    omega
  rw [checked, hcollation, if_neg (by decide), if_neg hlength, if_neg hsizes, if_neg hmaximum]

theorem isUsable_of_checked {settings settings' : Settings} (h : checked settings = .ok settings') :
    settings.IsUsable ∧ settings' = settings := by
  unfold checked at h
  split_ifs at h with hcollation hlength hsizes hmaximum
  cases h
  rw [Bool.not_eq_true', Bool.not_eq_false, isCollation_iff] at hcollation
  rw [← UInt32.toNat_inj, ← UInt32.toNat_inj, UInt32.toNat_zero] at hsizes
  rw [UInt32.lt_iff_toNat_lt] at hmaximum
  exact ⟨⟨hcollation.1, hcollation.2, by omega, by omega, by omega⟩, rfl⟩

theorem getD_field {σ : Type} {field : σ → Option α} {empty : σ} (h : field empty = none) (s : Option σ) :
    field (s.getD empty) = s.bind field := by
  cases s <;> simp [h]

theorem ofFile_eq (places : Places) (overrides : Overrides) (file : File) :
    ofFile places overrides file = checked (ofLayers places [overrides.layer, file.layer]) := by
  have hcollation : (file.filter.getD .empty).collation = file.layer.collation := getD_field rfl _
  have hmaxLength : (file.filter.getD .empty).maxLength = file.layer.maxLength := getD_field rfl _
  have hurl : (file.database.getD .empty).url = file.layer.url := getD_field rfl _
  have hdefaultSize : (file.page.getD .empty).defaultSize = file.layer.defaultPageSize := getD_field rfl _
  have hmaxSize : (file.page.getD .empty).maxSize = file.layer.maxPageSize := getD_field rfl _
  simp only [ofFile, checked, ofLayers, firstSaid_cons, Overrides.layer, hcollation, hmaxLength, hurl, hdefaultSize,
    hmaxSize, firstSaid_nil, Option.or_none, Option.none_or]

theorem resolve_eq (places : Places) (overrides : Overrides) (profile overlay : Option File) :
    resolve places overrides profile overlay = checked (ofLayers places (layersOf overrides overlay profile)) := by
  rw [resolve, ofFile_eq, layer_merged, ofLayers_over]
  rfl

/-! ### Loading -/

/-- What can be read at the path is a settings file; or nothing is there. -/
inductive Provides (disk : Disk) (path : Text) : Option File → Prop
  | absent (h : disk path = none) : Provides disk path none
  | file {s : Text} {file : File} (hs : disk.readText? path = some s) (hfile : File.ofJson s = .ok file) :
    Provides disk path (some file)

/-- The file that is laid over the profile: the one that is named, which must be there, or else the local one. -/
inductive ProvidesOverlay (disk : Disk) (places : Places) (overrides : Overrides) : Option File → Prop
  | named {config : Text} {file : File} (hconfig : overrides.config = some config)
    (h : Provides disk (Path.expand places config) (some file)) : ProvidesOverlay disk places overrides (some file)
  | here {file : Option File} (hconfig : overrides.config = none)
    (h : Provides disk (Path.join places.working fileName) file) : ProvidesOverlay disk places overrides file

section

variable {disk : Disk} {places : Places} {overrides : Overrides} {path : Text} {file profile overlay : Option File}

theorem holds_of_readText? {s : Text} (h : disk.readText? path = some s) : disk.holds path = true := by
  cases hitem : disk path <;> simp [Disk.readText?, Disk.holds, hitem] at h ⊢

theorem loadFile_of_provides {file : File} (h : Provides disk path (some file)) (shown : Text) :
    disk.holds path = true ∧ loadFile disk shown path = .ok file := by
  cases h with
  | file hs hfile =>
    refine ⟨holds_of_readText? hs, ?_⟩
    rw [loadFile, hs]
    exact except_mapError_eq_ok.2 hfile

theorem loadIfThere_of_provides (h : Provides disk path file) (shown : Text) :
    loadIfThere disk shown path = .ok file := by
  cases file with
  | none =>
    cases h with
    | absent h => simp [loadIfThere, Disk.holds, h]
  | some file =>
    obtain ⟨hholds, hload⟩ := loadFile_of_provides h shown
    rw [loadIfThere, if_pos hholds, hload]
    rfl

theorem loadOverlay_of_provides (h : ProvidesOverlay disk places overrides overlay) :
    loadOverlay disk places overrides = .ok overlay := by
  cases h with
  | named hconfig h =>
    obtain ⟨hholds, hload⟩ := loadFile_of_provides h _
    simp only [loadOverlay, hconfig]
    rw [if_pos hholds, hload]
    rfl
  | here hconfig h =>
    simp only [loadOverlay, hconfig]
    exact loadIfThere_of_provides h _

/-- Settings are loaded exactly if the values that the fields have from the layers are usable, and then these values are the settings: each field has its own from the command line, or else from the overlay, or else from the profile, or else by default. So whatever sections the overlay has, it takes no field from the profile that it leaves out. -/
theorem load_layers (hprofile : Provides disk (profilePath places) profile)
    (hoverlay : ProvidesOverlay disk places overrides overlay) :
    ((∃ settings, load disk places overrides = .ok settings) ↔
        (ofLayers places (layersOf overrides overlay profile)).IsUsable) ∧
      ∀ settings, load disk places overrides = .ok settings →
        settings = ofLayers places (layersOf overrides overlay profile) ∧
          (layerOf profile).Kept [overrides.layer, layerOf overlay] places settings := by
  have hload : load disk places overrides = checked (ofLayers places (layersOf overrides overlay profile)) := by
    rw [load, loadIfThere_of_provides hprofile, loadOverlay_of_provides hoverlay]
    exact resolve_eq places overrides profile overlay
  rw [hload]
  constructor
  · constructor
    · rintro ⟨settings, h⟩
      exact (isUsable_of_checked h).1
    · intro h
      exact ⟨_, checked_of_isUsable h⟩
  · intro settings h
    obtain ⟨-, rfl⟩ := isUsable_of_checked h
    exact ⟨rfl, (layerOf profile).kept [overrides.layer, layerOf overlay] [] places⟩

end

/-- Both files have a section on pages, each without one of its fields. The length on the command line stands over that of the profile, and the address from the overlay starts in the home directory. -/
theorem load_layers_sections :
    let places : Places := ⟨"/work".toList, "/home/ann".toList⟩
    let overrides : Overrides := ⟨some " ~/o.json".toList, none, some 4000, none⟩
    let profileText := ("\x7b\"filter\":\x7b\"collation\":\"BINARY\",\"max_length\":128\x7d," ++
      "\"pagination\":\x7b\"default_page_size\":25\x7d\x7d").toList
    let overlayText := ("\x7b\"database\":\x7b\"url\":\"sqlite://~/u\"\x7d," ++
      "\"pagination\":\x7b\"max_page_size\":30\x7d\x7d").toList
    let disk : Disk := fun path =>
      if path = "/home/ann/.usermanagement/usermanagement.json".toList then some (.file (.bytes (toBytes profileText)))
      else if path = "/home/ann/o.json".toList then some (.file (.bytes (toBytes overlayText)))
      else none
    ∃ profile overlay, Provides disk (profilePath places) (some profile) ∧
      ProvidesOverlay disk places overrides (some overlay) ∧
      load disk places overrides = .ok ⟨"BINARY".toList, 4000, "sqlite:///home/ann/u".toList, 25, 30⟩ := by
  intro places overrides profileText overlayText disk
  have hprofileText : (File.ofJson profileText).toOption.map File.layer =
      some ⟨some "BINARY".toList, some 128, none, some 25, none⟩ := by decide +kernel
  have hoverlayText : (File.ofJson overlayText).toOption.map File.layer =
      some ⟨none, none, some "sqlite://~/u".toList, none, some 30⟩ := by decide +kernel
  obtain ⟨profile, hread, hprofileLayer⟩ := Option.map_eq_some_iff.1 hprofileText
  obtain ⟨overlay, hread', hoverlayLayer⟩ := Option.map_eq_some_iff.1 hoverlayText
  have hprofile : Provides disk (profilePath places) (some profile) :=
    .file (by decide +kernel : disk.readText? (profilePath places) = some profileText) (except_toOption_eq_some.1 hread)
  have hoverlay : ProvidesOverlay disk places overrides (some overlay) :=
    .named rfl (.file (by decide +kernel : disk.readText? (Path.expand places " ~/o.json".toList) = some overlayText)
      (except_toOption_eq_some.1 hread'))
  obtain ⟨hiff, hvalues⟩ := load_layers hprofile hoverlay
  have hlayers : layersOf overrides (some overlay) (some profile) =
      [overrides.layer, ⟨none, none, some "sqlite://~/u".toList, none, some 30⟩,
        ⟨some "BINARY".toList, some 128, none, some 25, none⟩] := by
    simp only [layersOf, layerOf, Option.getD_some, hprofileLayer, hoverlayLayer]
  simp only [hlayers] at hiff hvalues
  obtain ⟨hne, hmem⟩ := isCollation_iff.1 (by decide : isCollation "BINARY".toList = true)
  obtain ⟨settings, hload⟩ := hiff.2 ⟨hne, hmem, by decide, by decide, by decide⟩
  have hsettings := (hvalues settings hload).1
  exact ⟨profile, overlay, hprofile, hoverlay, hload.trans (congrArg Except.ok (hsettings.trans (by decide +kernel)))⟩

end Settings

end Roster
