import Lexical.Options
import Lexical.Proofs.Numeral

/-! What the settings of the environment are taken for. Each of the two is read on its own: the one
is on if it is a word for that, in any case and with white space around it (`Settings.legacy_iff`),
the other is a limit if it is a numeral, and is passed over with one warning if it is anything else
but empty (`Settings.options_of_numeral`, `Settings.options_of_not_numeral`). So settings always
give options, and `Settings.options_determined` says which. -/

namespace Lexical

/-! ### Words in any case -/

namespace Text

theorem eq_toLower_or_eq_toUpper (c : Char) : c = c.toLower ∨ c = c.toLower.toUpper := by
  by_cases h : c.val ≥ 'A'.val ∧ c.val ≤ 'Z'.val
  · right
    have hlower : 'a'.val ≤ c.val + ('a'.val - 'A'.val) ∧
        c.val + ('a'.val - 'A'.val) ≤ 'z'.val := by
      simp only [ge_iff_le, UInt32.le_iff_toNat_le, UInt32.toNat_add, UInt32.toNat_sub] at h ⊢
      simp at h ⊢
      omega
    unfold Char.toLower
    rw [dif_pos h]
    unfold Char.toUpper
    rw [dif_pos hlower]
    apply Char.ext
    dsimp only
    rw [UInt32.add_assoc]
    exact (UInt32.add_zero c.val).symm
  · left
    unfold Char.toLower
    rw [dif_neg h]

/-- The text is the word, with any of its letters as capitals. -/
def IsCaseOf (text word : Text) : Prop := List.Forall₂ (fun c d => c = d ∨ c = d.toUpper) text word

theorem isCaseOf_lowercase (text : Text) : text.IsCaseOf text.lowercase := by
  induction text with
  | nil => exact .nil
  | cons c text ih => exact .cons (eq_toLower_or_eq_toUpper c) ih

theorem IsCaseOf.forall_mem {text word : Text} (h : text.IsCaseOf word) {p : Char → Prop}
    (hword : ∀ d ∈ word, p d ∧ p d.toUpper) : ∀ c ∈ text, p c := by
  induction h with
  | nil => exact List.forall_mem_nil p
  | @cons c d text word hc _ ih =>
    obtain ⟨hd, hrest⟩ := List.forall_mem_cons.mp hword
    refine List.forall_mem_cons.mpr ⟨?_, ih hrest⟩
    rcases hc with rfl | rfl
    · exact hd.1
    · exact hd.2

theorem IsCaseOf.lowercase_eq {text word : Text} (h : text.IsCaseOf word)
    (hword : ∀ d ∈ word, d.toLower = d ∧ d.toUpper.toLower = d) : text.lowercase = word := by
  induction h with
  | nil => rfl
  | @cons c d text word hc _ ih =>
    obtain ⟨hd, hrest⟩ := List.forall_mem_cons.mp hword
    have hlower : c.toLower = d := by
      rcases hc with rfl | rfl
      · exact hd.1
      · exact hd.2
    rw [lowercase, List.map_cons, hlower]
    exact congrArg (d :: ·) (ih hrest)

end Text

namespace Settings

/-! ### Words that switch a setting on -/

/-- The text is one of four words in any case, with white space around it. -/
def SwitchesOn (text : Text) : Prop :=
  ∃ before word after : Text, text = before ++ word ++ after ∧
    (∀ c ∈ before, Text.isSpace c) ∧ (∀ c ∈ after, Text.isSpace c) ∧
    ∃ on ∈ (["1", "true", "yes", "on"] : List Text), word.IsCaseOf on

theorem plain_of_mem_onWords {word : Text} (h : word ∈ onWords) :
    ∀ c ∈ word, (Text.isSpace c = false ∧ Text.isSpace c.toUpper = false) ∧
      c.toLower = c ∧ c.toUpper.toLower = c := by
  have hall : onWords.all fun word => word.all fun c =>
      (!Text.isSpace c && !Text.isSpace c.toUpper) &&
        (c.toLower == c && c.toUpper.toLower == c) := by decide
  intro c hc
  simpa using List.all_eq_true.mp (List.all_eq_true.mp hall word h) c hc

theorem isOn_iff {text : Text} : isOn text = true ↔ SwitchesOn text := by
  rw [isOn, decide_eq_true_eq]
  constructor
  · intro h
    obtain ⟨before, after, htext, hbefore, hafter⟩ := Text.exists_append_trim Text.isSpace text
    exact ⟨before, _, after, htext, hbefore, hafter, _, h, Text.isCaseOf_lowercase _⟩
  · rintro ⟨before, word, after, rfl, hbefore, hafter, on, hon, hword⟩
    have hplain := plain_of_mem_onWords hon
    have hspace : ∀ c ∈ word, Text.isSpace c = false :=
      hword.forall_mem fun c hc => (hplain c hc).1
    rw [Text.trim_append hbefore hspace hafter, hword.lowercase_eq fun c hc => (hplain c hc).2]
    exact hon

theorem SwitchesOn.ne_nil {text : Text} (h : SwitchesOn text) : text ≠ [] := by
  rintro rfl
  have hoff : isOn [] = false := by decide
  rw [isOn_iff.mpr h] at hoff
  cases hoff

theorem given_some {text : Text} (h : text ≠ []) : given (some text) = some text := by
  simp [given, h]

theorem legacy_iff (settings : Settings) :
    settings.legacy = true ↔ ∃ text, settings.legacyDispatch = some text ∧ SwitchesOn text := by
  rw [legacy, Option.any_eq_true]
  constructor
  · rintro ⟨text, htext, hon⟩
    exact ⟨text, (Option.filter_eq_some_iff.mp htext).1, isOn_iff.mp hon⟩
  · rintro ⟨text, htext, hon⟩
    rw [htext, given_some hon.ne_nil]
    exact ⟨text, rfl, isOn_iff.mpr hon⟩

/-! ### Limits -/

theorem options_of_numeral (legacyDispatch : Option Text) (numeral : Text.Numeral) :
    let settings : Settings := ⟨legacyDispatch, some numeral.text⟩
    settings.options.errorLimit = numeral.value ∧ settings.warnings = [] := by
  have hgiven := given_some numeral.text_ne_nil
  have hint := Text.int?_text numeral
  constructor
  · rw [options, errorLimit?, hgiven, Option.bind_some, hint]
    rfl
  · rw [warnings, hgiven]
    exact if_pos (by rw [hint]; rfl)

theorem options_of_not_numeral (legacyDispatch : Option Text) {text : Text} (hne : text ≠ [])
    (h : ∀ numeral : Text.Numeral, numeral.text ≠ text) :
    let settings : Settings := ⟨legacyDispatch, some text⟩
    settings.options.errorLimit = 100 ∧
      settings.warnings = ["Ignoring invalid JPP_MAX_ERRORS value " ++ text.quoted] := by
  have hgiven := given_some hne
  have hint := Text.int?_eq_none_iff.mpr h
  constructor
  · rw [options, errorLimit?, hgiven, Option.bind_some, hint]
    rfl
  · rw [warnings, hgiven]
    exact if_neg (by rw [hint]; exact Bool.false_ne_true)

/-- What two settings give, whatever they are. The first is on exactly if it switches on. The limit
is the number of the second if that is a numeral, and any numeral that spells a number gives it;
else the limit is a hundred, with one warning unless the setting is missing or empty. Neither
setting has a part in what the other gives. -/
theorem options_determined (legacyDispatch maxErrors : Option Text) :
    let settings : Settings := ⟨legacyDispatch, maxErrors⟩
    (settings.options.legacy = true ↔ ∃ text, legacyDispatch = some text ∧ SwitchesOn text) ∧
    (∀ numeral : Text.Numeral, maxErrors = some numeral.text →
      settings.options.errorLimit = numeral.value ∧ settings.warnings = []) ∧
    (∀ text, maxErrors = some text → text ≠ [] → (∀ numeral : Text.Numeral, numeral.text ≠ text) →
      settings.options.errorLimit = 100 ∧
        settings.warnings = ["Ignoring invalid JPP_MAX_ERRORS value " ++ text.quoted]) ∧
    (maxErrors = none ∨ maxErrors = some [] →
      settings.options.errorLimit = 100 ∧ settings.warnings = []) ∧
    (∀ n : Int,
      (∀ numeral : Text.Numeral, numeral.Spells n → maxErrors = some numeral.text →
        settings.options.errorLimit = n) ∧
      ((Nat.digits 10 n.natAbs).length ≤ 4300 →
        ∃ numeral : Text.Numeral, numeral.Spells n ∧ numeral.text = Text.ofInt n)) ∧
    (∀ other : Settings,
      (other.legacyDispatch = legacyDispatch → other.options.legacy = settings.options.legacy) ∧
      (other.maxErrors = maxErrors → other.options.errorLimit = settings.options.errorLimit ∧
        other.warnings = settings.warnings)) := by
  intro settings
  refine ⟨legacy_iff settings, ?_, ?_, ?_, ?_, ?_⟩
  · rintro numeral rfl
    exact options_of_numeral legacyDispatch numeral
  · rintro text rfl hne h
    exact options_of_not_numeral legacyDispatch hne h
  · rintro (rfl | rfl)
    · exact ⟨rfl, rfl⟩
    · exact ⟨rfl, rfl⟩
  · intro n
    refine ⟨?_, Text.Numeral.exists_spells⟩
    rintro numeral hspells rfl
    rw [← hspells.value_eq]
    exact (options_of_numeral legacyDispatch numeral).1
  · rintro ⟨otherDispatch, otherErrors⟩
    constructor
    · rintro rfl
      rfl
    · rintro rfl
      exact ⟨rfl, rfl⟩

/-- A capital, white space of two kinds, and digits of two scripts. -/
theorem options_determined_mixed :
    let settings : Settings :=
      ⟨some ['\t', 'O', 'n', ' '], some [' ', '-', '\u0664', '_', '2', '\u2003']⟩
    settings.options = ⟨true, -42⟩ ∧ settings.warnings = [] := by
  intro settings
  obtain ⟨hlegacy, hlimit, -⟩ := options_determined settings.legacyDispatch settings.maxErrors
  have htab : ∀ c ∈ ['\t'], Text.isSpace c := List.forall_mem_singleton.mpr (by decide)
  have hspace : ∀ c ∈ [' '], Text.isSpace c := List.forall_mem_singleton.mpr (by decide)
  have hon : SwitchesOn ['\t', 'O', 'n', ' '] :=
    ⟨['\t'], ['O', 'n'], [' '], rfl, htab, hspace, ['o', 'n'], by decide,
      .cons (.inr (by decide)) (.cons (.inl rfl) .nil)⟩
  have hbefore : ∀ c ∈ [' '], Text.isNumeralSpace c := List.forall_mem_singleton.mpr (by decide)
  have hafter : ∀ c ∈ ['\u2003'], Text.isNumeralSpace c :=
    List.forall_mem_singleton.mpr (by decide)
  have hwrites : Text.Writes ['\u0664', '_', '2'] [4, 2] :=
    .underscore (by decide) (.last (by decide))
  obtain ⟨herrorLimit, hwarnings⟩ :=
    hlimit ⟨[' '], .minus, _, _, ['\u2003'], hbefore, hwrites, by decide, hafter⟩ rfl
  exact ⟨congrArg₂ Options.mk (hlegacy.mpr ⟨_, rfl, hon⟩) herrorLimit, hwarnings⟩

end Settings
end Lexical
