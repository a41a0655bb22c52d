import CommandShell.Chat.Config
import CommandShell.Proofs.Json.Writable
import CommandShell.Proofs.Syntax.Trimming

/-!
Settings of the chat client in their normal form, which is what they are read as again. Reading
trims the address before it takes the slashes off its end, and looks for a missing model before it
trims that. So what is read is in normal form where the address ends, but for slashes, in a
character that is neither a slash nor a blank, and the model is not made of blanks.
-/

namespace CommandShell

namespace Chat.Config

open Text (isBlank)
open Text.Chars (IsTrim isTrim_toList_trim)

/-- The settings that a configuration is read from again. -/
def toJson (c : Config) : Json :=
  .obj [("base_url", .str c.baseUrl), ("timeout_ms", .int c.timeout),
    ("poll_interval_ms", .int c.pollInterval), ("model", .str c.model)]

/-- Whether there are an address and a model, with no blank at their ends and no slash at the end
of the address. -/
structure IsNormal (c : Config) : Prop where
  address_ne : c.baseUrl ≠ ""
  address_trim : IsTrim c.baseUrl.toList
  address_end : ∀ ch ∈ c.baseUrl.toList.getLast?, ch ≠ '/'
  model_ne : c.model ≠ ""
  model_trim : IsTrim c.model.toList

/-! ## Slashes at the end -/

section Slashes

variable {cs : List Char}

theorem dropSlashes_eq_rdropWhile (cs : List Char) :
    dropSlashes cs = cs.rdropWhile fun c => decide (c = '/') :=
  rfl

theorem not_slash_of_dropSlashes : ∀ c ∈ (dropSlashes cs).getLast?, c ≠ '/' := by
  intro c hc
  simpa using Text.Chars.not_of_mem_getLast?_rdropWhile hc

theorem dropSlashes_eq_self (h : ∀ c ∈ cs.getLast?, c ≠ '/') : dropSlashes cs = cs := by
  rw [dropSlashes_eq_rdropWhile, List.rdropWhile_eq_self_iff]
  intro hne hc
  exact h _ (List.getLast?_eq_some_getLast hne) (of_decide_eq_true hc)

theorem isPrefix_dropSlashes (cs : List Char) : dropSlashes cs <+: cs :=
  List.rdropWhile_prefix _ cs

theorem exists_eq_dropSlashes (cs : List Char) :
    ∃ count, cs = dropSlashes cs ++ List.replicate count '/' := by
  have hs : ∀ c ∈ cs.rtakeWhile fun c => decide (c = '/'), c = '/' := fun c hc =>
    of_decide_eq_true (List.mem_rtakeWhile_imp (p := fun c => decide (c = '/')) hc)
  obtain ⟨count, hc⟩ : ∃ count, cs.rtakeWhile (fun c => decide (c = '/')) =
      List.replicate count '/' := ⟨_, List.eq_replicate_of_mem hs⟩
  refine ⟨count, ?_⟩
  rw [← hc, dropSlashes_eq_rdropWhile, List.rdropWhile_append_rtakeWhile]

theorem dropSlashes_append (cs : List Char) (count : Nat) :
    dropSlashes (cs ++ List.replicate count '/') = dropSlashes cs := by
  rw [dropSlashes, List.reverse_append, List.dropWhile_append_of_pos (by simp)]
  rfl

end Slashes

/-! ## Reading -/

section Reading

variable {fields : List (String × Json)} {timeout pollInterval : Int}

theorem timeField_of_int {name : String} {default n : Int}
    (h : (fields.lookup name).getD (.int default) = .int n) :
    timeField (.obj fields) name default = .ok n.toNat := by
  rw [timeField, Json.field?, h]
  rfl

/-- Only a number with too many digits keeps a field from having a text. -/
theorem textField_error {v : Json} {name default : String} {f : ConfigFault}
    (h : textField v name default = .error f) : f = .json .unwritable := by
  rw [textField] at h
  split at h
  · split at h
    · rename_i w _ _
      cases hd : w.display with
      | ok text =>
          rw [hd] at h
          cases h
      | error g =>
          rw [hd, (Json.display_eq_error.mp hd).2] at h
          exact (Except.error.inj h).symm
    · cases h
  · cases h

/-- What settings are read as where their times are whole numbers. -/
theorem ofJson_of_times
    (ht : (fields.lookup "timeout_ms").getD (.int defaultTimeout) = .int timeout)
    (hp : (fields.lookup "poll_interval_ms").getD (.int defaultPollInterval) =
      .int pollInterval) :
    ofJson (.obj fields) =
      match textField (.obj fields) "base_url" "" with
      | .error f => .error f
      | .ok address =>
          if Text.trim address = "" then .error .baseUrlMissing
          else
            match textField (.obj fields) "model" defaultModel with
            | .error f => .error f
            | .ok model =>
                .ok ⟨String.ofList (dropSlashes (Text.trim address).toList), timeout.toNat,
                  pollInterval.toNat, Text.trim model⟩ := by
  simp only [ofJson, timeField_of_int ht, timeField_of_int hp, String.isEmpty_iff]
  cases textField (.obj fields) "model" defaultModel <;> rfl

theorem textField_str {name default s : String}
    (h : fields.lookup name = some (.str s)) :
    textField (.obj fields) name default = .ok (if s = "" then default else s) := by
  rw [textField, Json.field?, h]
  by_cases hs : s = "" <;> simp [Json.isTruthy, Json.display, Except.mapError, hs]

theorem ofJson_toJson (c : Config) :
    ofJson c.toJson =
      if Text.trim c.baseUrl = "" then .error .baseUrlMissing
      else
        .ok ⟨String.ofList (dropSlashes (Text.trim c.baseUrl).toList), c.timeout, c.pollInterval,
          Text.trim (if c.model = "" then defaultModel else c.model)⟩ := by
  have hu : textField c.toJson "base_url" "" = .ok c.baseUrl := by
    rw [toJson, textField_str rfl]
    split
    · next h => rw [h]
    · rfl
  have hm : textField c.toJson "model" defaultModel =
      .ok (if c.model = "" then defaultModel else c.model) := textField_str rfl
  have hr : ofJson c.toJson = _ :=
    ofJson_of_times (rfl : _ = Json.int c.timeout) (rfl : _ = Json.int c.pollInterval)
  rw [toJson] at hu hm
  rw [hr, hu, hm]
  rfl

end Reading

/-- Only what is in normal form is read as itself. -/
theorem ofJson_toJson_iff (c : Config) : ofJson c.toJson = .ok c ↔ c.IsNormal := by
  rw [ofJson_toJson]
  constructor
  · intro h
    split at h
    · contradiction
    · next hne =>
        have hc := Except.ok.inj h
        have hurl : dropSlashes (Text.Chars.trim c.baseUrl.toList) = c.baseUrl.toList := by
          simpa [Text.trim] using congrArg (fun c => c.baseUrl.toList) hc
        have hmodel : Text.trim (if c.model = "" then defaultModel else c.model) = c.model :=
          congrArg Config.model hc
        have hlength : c.baseUrl.toList.length ≤ (Text.Chars.trim c.baseUrl.toList).length := by
          conv_lhs => rw [← hurl]
          exact (isPrefix_dropSlashes _).length_le
        have hm : c.model ≠ "" := by
          intro hm
          rw [if_pos hm, hm] at hmodel
          exact absurd hmodel (by decide)
        refine ⟨fun hu => hne (by rw [hu]; rfl), Text.Chars.isTrim_of_length_le hlength, ?_, hm, ?_⟩
        · rw [← hurl]
          exact not_slash_of_dropSlashes
        · rw [if_neg hm] at hmodel
          exact hmodel ▸ isTrim_toList_trim c.model
  · intro h
    have hu : Text.trim c.baseUrl = c.baseUrl := by
      rw [Text.trim, h.address_trim.trim_eq, String.ofList_toList]
    have hm : Text.trim c.model = c.model := by
      rw [Text.trim, h.model_trim.trim_eq, String.ofList_toList]
    rw [hu, if_neg h.address_ne, if_neg h.model_ne, hm, dropSlashes_eq_self h.address_end,
      String.ofList_toList]

/-! ## Settings that come out in normal form -/

/-- A text that ends, but for slashes, in a character that is neither a slash nor a blank. -/
def Firm (cs : List Char) : Prop :=
  ∃ before c count, cs = before ++ c :: List.replicate count '/' ∧ c ≠ '/' ∧ isBlank c = false

theorem firm_iff {cs : List Char} :
    Firm cs ↔ dropSlashes cs ≠ [] ∧ ∀ c ∈ (dropSlashes cs).getLast?, isBlank c = false := by
  constructor
  · rintro ⟨before, c, count, rfl, hc, hb⟩
    have hd : dropSlashes (before ++ c :: List.replicate count '/') = before ++ [c] := by
      rw [List.append_cons, dropSlashes_append]
      exact dropSlashes_eq_self (by simpa using hc)
    rw [hd]
    exact ⟨by simp, by simpa using hb⟩
  · rintro ⟨hne, hb⟩
    obtain ⟨count, hs⟩ := exists_eq_dropSlashes cs
    have hl := List.getLast?_eq_some_getLast hne
    refine ⟨(dropSlashes cs).dropLast, (dropSlashes cs).getLast hne, count, ?_,
      not_slash_of_dropSlashes _ hl, hb _ hl⟩
    rw [List.append_cons, List.dropLast_append_getLast, ← hs]

theorem isNormal_iff {address model : String} {timeout pollInterval : Nat} :
    IsNormal ⟨String.ofList (dropSlashes (Text.trim address).toList), timeout, pollInterval,
        Text.trim model⟩ ↔
      Firm (Text.trim address).toList ∧ Text.isBlankText model = false := by
  have ha : IsTrim (Text.trim address).toList := isTrim_toList_trim address
  have hblank : Text.trim model ≠ "" ↔ Text.isBlankText model = false := by
    rw [Text.trim, ← Bool.not_eq_true, Text.isBlankText, ← Text.Chars.trim_eq_nil_iff]
    simp
  rw [firm_iff, ← hblank]
  constructor
  · intro h
    have hne := h.address_ne
    have hlast := h.address_trim.last
    rw [String.toList_ofList] at hlast
    exact ⟨⟨by simpa using hne, hlast⟩, h.model_ne⟩
  · rintro ⟨⟨hne, hlast⟩, hmodel⟩
    refine ⟨by simpa using hne, ?_, ?_, hmodel, isTrim_toList_trim model⟩
    · rw [String.toList_ofList]
      refine ⟨fun c hc => ha.first c ?_, hlast⟩
      obtain ⟨rest, hr⟩ := isPrefix_dropSlashes (Text.trim address).toList
      rw [← hr, List.head?_append, Option.mem_def.mp hc]
      rfl
    · rw [String.toList_ofList]
      exact not_slash_of_dropSlashes

/-- Settings are read in normal form, and again as themselves, exactly if the address ends in a firm
way and the model is not blank. -/
theorem config_normalized {fields : List (String × Json)} {timeout pollInterval : Int}
    (ht : (fields.lookup "timeout_ms").getD (.int defaultTimeout) = .int timeout)
    (hp : (fields.lookup "poll_interval_ms").getD (.int defaultPollInterval) =
      .int pollInterval) :
    (∀ f, textField (.obj fields) "base_url" "" = .error f →
      ofJson (.obj fields) = .error f ∧ f = .json .unwritable) ∧
    ∀ address, textField (.obj fields) "base_url" "" = .ok address →
      (Text.isBlankText address = true → ofJson (.obj fields) = .error .baseUrlMissing ∧
        ConfigFault.baseUrlMissing.message = "config.base_url missing/empty") ∧
      (Text.isBlankText address = false →
        (∀ f, textField (.obj fields) "model" defaultModel = .error f →
          ofJson (.obj fields) = .error f ∧ f = .json .unwritable) ∧
        ∀ model, textField (.obj fields) "model" defaultModel = .ok model →
          ∃ c, ofJson (.obj fields) = .ok c ∧
            (c.timeout : Int) = max 0 timeout ∧ (c.pollInterval : Int) = max 0 pollInterval ∧
            (∀ ch ∈ c.baseUrl.toList.getLast?, ch ≠ '/') ∧ IsTrim c.model.toList ∧
            (c.IsNormal ↔ Firm (Text.trim address).toList ∧ Text.isBlankText model = false) ∧
            (ofJson c.toJson = .ok c ↔ c.IsNormal)) := by
  have hr := ofJson_of_times ht hp
  refine ⟨fun f hf => ⟨by rw [hr, hf], textField_error hf⟩, fun address ha => ?_⟩
  rw [ha] at hr
  have hblank : Text.trim address = "" ↔ Text.isBlankText address = true := by
    rw [Text.trim, Text.isBlankText, ← Text.Chars.trim_eq_nil_iff]
    simp
  refine ⟨fun hb => ⟨hr.trans (if_pos (hblank.mpr hb)), rfl⟩, fun hb => ?_⟩
  dsimp only at hr
  rw [if_neg (by rw [hblank, hb]; exact Bool.false_ne_true)] at hr
  refine ⟨fun f hf => ⟨by rw [hr, hf], textField_error hf⟩, fun model hm => ?_⟩
  rw [hm] at hr
  have hmax : ∀ n : Int, (n.toNat : Int) = max 0 n := fun n => by omega
  refine ⟨_, hr, hmax timeout, hmax pollInterval, ?_, isTrim_toList_trim model, isNormal_iff,
    ofJson_toJson_iff _⟩
  rw [String.toList_ofList]
  exact not_slash_of_dropSlashes

/-- Settings with blanks and slashes around, and a time below zero. -/
def spaciousSettings : List (String × Json) :=
  [("base_url", .str " http://h// "), ("timeout_ms", .int (-5)), ("model", .str " m ")]

/-- Blanks and slashes are taken off, and a blank address is none. -/
theorem config_normalized_spacious :
    (spaciousSettings.lookup "timeout_ms").getD (.int defaultTimeout) = .int (-5) ∧
      (spaciousSettings.lookup "poll_interval_ms").getD (.int defaultPollInterval) = .int 200 ∧
      (∃ c, ofJson (.obj spaciousSettings) = .ok c ∧ c.timeout = 0 ∧ c.IsNormal ∧
        ofJson c.toJson = .ok c) ∧
      ofJson (.obj [("base_url", .str "\t")]) = .error .baseUrlMissing := by
  have ht : (spaciousSettings.lookup "timeout_ms").getD (.int defaultTimeout) = .int (-5) := rfl
  have hp : (spaciousSettings.lookup "poll_interval_ms").getD (.int defaultPollInterval) =
      .int 200 := rfl
  refine ⟨ht, hp, ?_, (((config_normalized rfl rfl).2 "\t" rfl).1 (by decide)).1⟩
  obtain ⟨-, hread⟩ := ((config_normalized ht hp).2 " http://h// " rfl).2 (by decide)
  obtain ⟨c, hc, htime, -, -, -, hn, hr⟩ := hread " m " rfl
  have hnormal : c.IsNormal := hn.mpr
    ⟨⟨"http://".toList, 'h', 2, by decide, by decide, by decide⟩, by decide⟩
  exact ⟨c, hc, by omega, hnormal, hr.mpr hnormal⟩

/-- An address of slashes is taken for one, a blank before them stays, and so does a blank model
as an empty one. -/
theorem unnormalized_read :
    ofJson (.obj [("base_url", .str "/")]) = .ok ⟨"", 8000, 200, "llama3.1:8b"⟩ ∧
      ofJson (.obj [("base_url", .str "http://h /")]) =
        .ok ⟨"http://h ", 8000, 200, "llama3.1:8b"⟩ ∧
      ofJson (.obj [("base_url", .str "http://h"), ("model", .str " ")]) =
        .ok ⟨"http://h", 8000, 200, ""⟩ :=
  ⟨rfl, rfl, rfl⟩

end Chat.Config

end CommandShell
