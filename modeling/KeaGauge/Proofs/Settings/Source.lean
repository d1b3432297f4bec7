import KeaGauge.Proofs.Text.Utf8
import KeaGauge.Settings.Source
/-!
# Settings as they are loaded

Which file settings are from is a matter of the paths, and at the default
location of whether there is something (`Chooses`). What a file brings is what
its content brings as a document on its own, or the reason why it has none
(`Brings`). Loading does just this (`load_exact`), and whatever settings come
of it, or of a document, violate no rule.
-/

namespace KeaGauge.Settings

/-- **Which file is chosen**: the one asked for, else that of the environment,
else the one at the default location when there is something, and otherwise
none. -/
inductive Chooses (files : Files) :
    (asked environment default : Option String) → (choice : Option String) → Prop where
  | asked (path : String) (environment default : Option String) :
      Chooses files (some path) environment default (some path)
  | environment (path : String) (default : Option String) :
      Chooses files none (some path) default (some path)
  | default {path : String} (there : exists? files path = true) :
      Chooses files none none (some path) (some path)
  | absent {path : String} (gone : exists? files path = false) :
      Chooses files none none (some path) none
  | nowhere : Chooses files none none none none

/-- **What a choice brings.** Without a file it is the settings as they are
left. Else it is what the content of the file brings as a document on its own,
with the path in the place of the document's, unless the file cannot be read or
holds no text. -/
inductive Brings (files : Files) : (choice : Option String) → Except Error Loaded → Prop where
  | left : Brings files none (.ok ⟨.standard, none⟩)
  | unreadable {path : String} {fault : ReadFault} (unread : files path = .error fault) :
      Brings files (some path) (.error (.unreadable path fault))
  | notText {path : String} {bytes : List UInt8} (read : files path = .ok bytes)
      (noText : ∀ content : String, bytes ≠ content.toUTF8.toList) :
      Brings files (some path) (.error (.unreadable path .notText))
  | undecodable {path content : String} {fault : Option Fault}
      (read : files path = .ok content.toUTF8.toList)
      (alone : ofToml inlinePath content = .error (.undecodable inlinePath fault)) :
      Brings files (some path) (.error (.undecodable path fault))
  | invalid {path content : String} {violation : Violation}
      (read : files path = .ok content.toUTF8.toList)
      (alone : ofToml inlinePath content = .error (.invalid violation)) :
      Brings files (some path) (.error (.invalid violation))
  | settings {path content : String} {s : Settings}
      (read : files path = .ok content.toUTF8.toList)
      (alone : ofToml inlinePath content = .ok s) :
      Brings files (some path) (.ok ⟨s, some path⟩)

variable {files : Files} {asked environment default choice : Option String}
variable {path content : String} {s : Settings} {result : Except Error Loaded}

/-! ## Documents -/

/-- **What a document brings** is the same by whatever path it is known, but
for the path itself, and settings violate no rule. -/
theorem ofToml_cases (content : String) :
    (∃ fault, ∀ path, ofToml path content = .error (.undecodable path fault)) ∨
      (∃ violation, ∀ path, ofToml path content = .error (.invalid violation)) ∨
      ∃ s, s.violation? = none ∧ ∀ path, ofToml path content = .ok s := by
  cases hparse : Toml.parse? content with
  | none => exact .inl ⟨none, fun path => by simp only [ofToml, hparse]⟩
  | some entries =>
    cases hdecode : toml.decode (.table entries) with
    | error fault => exact .inl ⟨some fault, fun path => by simp only [ofToml, hparse, hdecode]⟩
    | ok s =>
      cases hviolation : s.violation? with
      | none =>
        exact .inr (.inr ⟨s, hviolation, fun path => by
          simp only [ofToml, hparse, hdecode, validated, hviolation]⟩)
      | some violation =>
        exact .inr (.inl ⟨violation, fun path => by
          simp only [ofToml, hparse, hdecode, validated, hviolation]⟩)

/-- A document known by a path brings what it brings on its own. -/
theorem ofToml_known (path content : String) :
    ofToml path content = match ofToml inlinePath content with
      | .error (.undecodable _ fault) => .error (.undecodable path fault)
      | brought => brought := by
  rcases ofToml_cases content with ⟨fault, hall⟩ | ⟨violation, hall⟩ | ⟨s, -, hall⟩
  · rw [hall path, hall inlinePath]
  · rw [hall path, hall inlinePath]
  · rw [hall path, hall inlinePath]

/-- **Settings of a document violate no rule.** -/
theorem violation?_of_ofToml (h : ofToml path content = .ok s) : s.violation? = none := by
  rcases ofToml_cases content with ⟨fault, hall⟩ | ⟨violation, hall⟩ | ⟨s', hvalid, hall⟩
  · exact absurd ((hall path).symm.trans h) (by simp)
  · exact absurd ((hall path).symm.trans h) (by simp)
  · obtain rfl := Except.ok.inj ((hall path).symm.trans h)
    exact hvalid

/-! ## Files -/

theorem readText_of_text (h : files path = .ok content.toUTF8.toList) :
    readText files path = .ok content := by
  simp only [readText, h, Text.decodeUtf8?_toUTF8, String.ofList_toList]

theorem readText_of_noText {bytes : List UInt8} (h : files path = .ok bytes)
    (hnone : ∀ content : String, bytes ≠ content.toUTF8.toList) :
    readText files path = .error .notText := by
  simp only [readText, h, Text.decodeUtf8?_eq_none_iff.2 hnone]

/-- A file cannot be read, holds no text, or holds a text. -/
theorem files_cases (files : Files) (path : String) :
    (∃ fault, files path = .error fault) ∨
      (∃ bytes, files path = .ok bytes ∧ ∀ content : String, bytes ≠ content.toUTF8.toList) ∨
      ∃ content : String, files path = .ok content.toUTF8.toList := by
  cases hfile : files path with
  | error fault => exact .inl ⟨fault, rfl⟩
  | ok bytes =>
    cases hdecode : Text.decodeUtf8? bytes with
    | none => exact .inr (.inl ⟨bytes, rfl, Text.decodeUtf8?_eq_none_iff.1 hdecode⟩)
    | some cs =>
      have hbytes := Text.decodeUtf8?_eq_some_iff.1 hdecode
      exact .inr (.inr ⟨String.ofList cs, congrArg Except.ok hbytes⟩)

/-- What a file brings. -/
theorem brings_ofFile (files : Files) (path : String) :
    Brings files (some path) (ofFile files path) := by
  rcases files_cases files path with ⟨fault, hfile⟩ | ⟨bytes, hfile, hnone⟩ | ⟨content, hfile⟩
  · simp only [ofFile, readText, hfile]
    exact .unreadable hfile
  · rw [ofFile, readText_of_noText hfile hnone]
    exact .notText hfile hnone
  · rw [ofFile, readText_of_text hfile]
    rcases ofToml_cases content with ⟨fault, hall⟩ | ⟨violation, hall⟩ | ⟨s, -, hall⟩
    · simp only [hall path]
      exact .undecodable hfile (hall inlinePath)
    · simp only [hall path]
      exact .invalid hfile (hall inlinePath)
    · simp only [hall path]
      exact .settings hfile (hall inlinePath)

/-- A file brings nothing else. -/
theorem Brings.eq_ofFile (h : Brings files (some path) result) : result = ofFile files path := by
  cases h with
  | unreadable unread => simp only [ofFile, readText, unread]
  | notText read noText => rw [ofFile, readText_of_noText read noText]
  | undecodable read alone =>
    rw [ofFile, readText_of_text read]
    simp only [ofToml_known path, alone]
    rfl
  | invalid read alone =>
    rw [ofFile, readText_of_text read]
    simp only [ofToml_known path, alone]
    rfl
  | settings read alone =>
    rw [ofFile, readText_of_text read]
    simp only [ofToml_known path, alone]
    rfl

theorem brings_some_iff : Brings files (some path) result ↔ ofFile files path = result :=
  ⟨fun h => h.eq_ofFile.symm, fun h => h ▸ brings_ofFile files path⟩

theorem brings_none_iff : Brings files none result ↔ .ok ⟨.standard, none⟩ = result := by
  constructor
  · rintro ⟨⟩
    rfl
  · rintro rfl
    exact .left

/-! ## Loading -/

/-- **One choice is made.** -/
theorem exists_unique_chooses (files : Files) (asked environment default : Option String) :
    ∃! choice, Chooses files asked environment default choice := by
  cases asked with
  | some path =>
    refine ⟨some path, .asked path environment default, fun choice h => ?_⟩
    cases h
    rfl
  | none =>
    cases environment with
    | some path =>
      refine ⟨some path, .environment path default, fun choice h => ?_⟩
      cases h
      rfl
    | none =>
      cases default with
      | none =>
        refine ⟨none, .nowhere, fun choice h => ?_⟩
        cases h
        rfl
      | some path =>
        cases hthere : exists? files path with
        | true =>
          refine ⟨some path, .default hthere, fun choice h => ?_⟩
          cases h with
          | default _ => rfl
          | absent gone => exact absurd (hthere.symm.trans gone) (by decide)
        | false =>
          refine ⟨none, .absent hthere, fun choice h => ?_⟩
          cases h with
          | default there => exact absurd (hthere.symm.trans there) (by decide)
          | absent _ => rfl

/-- Loading brings what the choice does. -/
theorem load_eq_iff (h : Chooses files asked environment default choice) :
    load files asked environment default = result ↔ Brings files choice result := by
  cases h with
  | asked path environment default => exact brings_some_iff.symm
  | environment path default => exact brings_some_iff.symm
  | default there =>
    rw [brings_some_iff, load]
    simp only [Option.or_self, ofDefault, there, if_true]
  | absent gone =>
    rw [brings_none_iff, load]
    simp only [Option.or_self, ofDefault, gone, Bool.false_eq_true, if_false]
  | nowhere => exact brings_none_iff.symm

theorem standard_valid : standard.violation? = none := by decide

/-- Settings that a choice brings violate no rule, and are from a file unless
there was none to choose. -/
theorem Brings.settings_valid {loaded : Loaded} (h : Brings files choice (.ok loaded)) :
    loaded.settings.violation? = none ∧ loaded.path = choice := by
  cases h with
  | left => exact ⟨standard_valid, rfl⟩
  | settings _ alone => exact ⟨violation?_of_ofToml alone, rfl⟩

/-- **Loading is exact.** Whatever the files and the paths, one choice is made,
and what is loaded is what this choice brings: the content of the file as a
document on its own, or why there is none. Only where nothing is chosen are
settings as they are left, and these violate no rule, nor do any that are
loaded or are those of a document. -/
theorem load_exact (files : Files) (asked environment default : Option String) :
    (∃! choice, Chooses files asked environment default choice) ∧
      (∀ choice, Chooses files asked environment default choice → ∀ result,
        (load files asked environment default = result ↔ Brings files choice result)) ∧
      (∀ choice loaded, Chooses files asked environment default choice →
        load files asked environment default = .ok loaded →
          loaded.path = choice ∧ loaded.settings.violation? = none) ∧
      standard.violation? = none ∧
      ∀ path content s, ofToml path content = .ok s → s.violation? = none := by
  refine ⟨exists_unique_chooses files asked environment default, fun choice h result =>
    load_eq_iff h, fun choice loaded h hload => ?_, standard_valid, fun path content s =>
      violation?_of_ofToml⟩
  obtain ⟨hvalid, hpath⟩ := ((load_eq_iff h).1 hload).settings_valid
  exact ⟨hpath, hvalid⟩

/-- A file at the default location that is no text is not passed over. -/
example : load (fun _ => .ok [0xFF]) none none (some "config.toml") =
    .error (.unreadable "config.toml" .notText) := by
  rfl

end KeaGauge.Settings
