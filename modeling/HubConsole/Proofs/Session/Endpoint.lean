import HubConsole.Proofs.Text.Lines
import HubConsole.Proofs.Url.Addresses
import HubConsole.Session.Config
import Mathlib.Data.List.Infix

namespace HubConsole.Session.Config

open HubConsole.Text HubConsole.Url

theorem hasSlashes_iff (cs : List Char) : hasSlashes cs ↔ "://".toList <:+: cs := by
  induction cs with
  | nil => simp [hasSlashes]
  | cons c cs ih => rw [hasSlashes, Bool.or_eq_true, List.isPrefixOf_iff_prefix, ih, List.infix_cons_iff]

/-- The address of the hub that the settings name, a text without `://` being the name of a host. -/
def Names (c : Config) (hub : Address) : Prop :=
  parse (if "://".toList <:+: (trim c.hubUrl).toList then trim c.hubUrl else "ws://" ++ trim c.hubUrl) =
    .ok (.hub hub)

/-- The passphrase without the blanks around it. -/
def word (c : Config) : List Char := (trim c.passphrase).toList

theorem names_iff (c : Config) (hub : Address) : c.Names hub ↔ parse c.rawUrl = .ok (.hub hub) := by
  simp only [Names, rawUrl, hasSlashes_iff]

theorem word_eq_nil_iff (c : Config) : c.word = [] ↔ isBlankText c.passphrase := by
  rw [word, trim, String.toList_ofList, dropEnd_eq_nil_iff, isBlankText]
  conv_rhs => rw [← List.takeWhile_append_dropWhile (p := isBlank) (l := c.passphrase.toList), List.all_append,
    List.all_takeWhile, Bool.true_and]

theorem endpoint_of_parse {c : Config} {hub : Address} (h : parse c.rawUrl = .ok (.hub hub)) :
    c.endpoint = if c.word.isEmpty then .ok hub else .ok { hub with path := hub.path.push c.word } := by
  unfold endpoint
  rw [h]
  unfold word
  rfl

/-- The endpoint differs from the address of the hub by its path alone, and is read as it is written. -/
theorem exists_endpoint {c : Config} {hub : Address} (h : c.Names hub) :
    ∃ e, c.endpoint = .ok e ∧ e.Settled ∧ e = { hub with path := e.path } ∧
      e.path = if isBlankText c.passphrase then hub.path else hub.path.push c.word := by
  have hparsed := (names_iff c hub).mp h
  obtain ⟨hpath, hquery, hfragment⟩ := (of_parse_eq_hub hparsed).2
  have hpushed := Path.settled_push hpath c.word
  have hendpoint := endpoint_of_parse hparsed
  -- What is pushed is not to be computed from here on.
  generalize hub.path.push c.word = path at hpushed hendpoint ⊢
  simp only [List.isEmpty_iff, word_eq_nil_iff] at hendpoint
  split at hendpoint
  · next hblank => exact ⟨hub, hendpoint, ⟨hpath, hquery, hfragment⟩, rfl, (if_pos hblank).symm⟩
  · next hblank => exact ⟨_, hendpoint, ⟨hpushed, hquery, hfragment⟩, rfl, (if_neg hblank).symm⟩

theorem text_endpoint {c : Config} {hub e : Address} (h : c.Names hub) (he : c.endpoint = .ok e)
    (hpassphrase : ¬isBlankText c.passphrase) :
    e.text = Address.text { hub with path := hub.path.push c.word } := by
  obtain ⟨_, he', -, hsame, hpath⟩ := exists_endpoint h
  obtain rfl := Except.ok.inj (he'.symm.trans he)
  rw [hsame, hpath, if_neg hpassphrase]

theorem extends_endpoint_iff {c : Config} {hub e : Address} (h : c.Names hub) (he : c.endpoint = .ok e)
    (hpassphrase : ¬isBlankText c.passphrase) :
    e.path.Extends hub.path.dropEmptyEnd c.word ↔
      ¬LoneDots c.word ∧ withoutMarks c.word = c.word ∧ hub.path.segments ≠ [[], []] := by
  obtain ⟨_, he', -, -, hpath⟩ := exists_endpoint h
  obtain rfl := Except.ok.inj (he'.symm.trans he)
  have hword : c.word ≠ [] := fun hnil => hpassphrase ((word_eq_nil_iff c).mp hnil)
  rw [hpath, if_neg hpassphrase]
  exact hub.path.extends_push_iff hword

/-- The endpoint is the address of the hub with the passphrase as one segment more, for all passphrases but those
that are taken for dots or have marks in them, and for all paths but `//`. -/
theorem endpoint_has_passphrase_last {c : Config} {hub : Address} (h : c.Names hub) :
    (hub.scheme = .ws ∨ hub.scheme = .wss) ∧
      ∃ e, c.endpoint = .ok e ∧ e = { hub with path := e.path } ∧
        e.text.toList = e.scheme.name.toList ++ "://".toList ++ e.authority.text ++ e.restText ∧
        readRest e.scheme e.authority e.restText = e ∧
        (isBlankText c.passphrase → e = hub) ∧
        (¬isBlankText c.passphrase →
          (e.path.Extends hub.path.dropEmptyEnd c.word ↔
            ¬LoneDots c.word ∧ withoutMarks c.word = c.word ∧ hub.path.segments ≠ [[], []]) ∧
          hub.path.Pushed c.word e.path) := by
  have hscheme := (of_parse_eq_hub ((names_iff c hub).mp h)).1
  obtain ⟨e, he, hsettled, hsame, hpath⟩ := exists_endpoint h
  refine ⟨hscheme, e, he, hsame, e.toList_text, readRest_restText hsettled, fun hblank => ?_, fun hblank => ?_⟩
  · rw [hsame, hpath, if_pos hblank]
  · refine ⟨extends_endpoint_iff h he hblank, ?_⟩
    rw [hpath, if_neg hblank]
    exact hub.path.pushed_push c.word

theorem mixed_passphrase_last :
    ∃ hub e, (new " ws://user@h:1//a/?q=1#f " " a/é%.? ").Names hub ∧
      (new " ws://user@h:1//a/?q=1#f " " a/é%.? ").endpoint = .ok e ∧
      e.text = "ws://user@h:1//a/a%2F%C3%A9%25.%3F?q=1#f" ∧
      e.path.Extends hub.path.dropEmptyEnd "a/é%.?".toList := by
  have hnames : (new " ws://user@h:1//a/?q=1#f " " a/é%.? ").Names
      ⟨.ws, ⟨"user@".toList, .name ['h'], some 1⟩, ⟨[[], ['a'], []]⟩, "q=1".toList, "f".toList⟩ :=
    (names_iff _ _).mpr (by decide +kernel)
  have hpassphrase : ¬isBlankText (new " ws://user@h:1//a/?q=1#f " " a/é%.? ").passphrase := by decide +kernel
  have hword : (new " ws://user@h:1//a/?q=1#f " " a/é%.? ").word = "a/é%.?".toList := by decide +kernel
  obtain ⟨-, e, he, -, -, -, -, hlast⟩ := endpoint_has_passphrase_last hnames
  have hextends := (hlast hpassphrase).1
  rw [hword] at hextends
  refine ⟨_, e, hnames, he, ?_, hextends.mpr ⟨by decide, by decide, by decide⟩⟩
  rw [text_endpoint hnames he hpassphrase, hword]
  decide +kernel

/-- A hub is named and its endpoint is written as told, but its last segment is not the passphrase. -/
def Loses (c : Config) (written : String) : Prop :=
  ∃ hub e, c.Names hub ∧ ¬isBlankText c.passphrase ∧ c.endpoint = .ok e ∧ e.text = written ∧
    ¬e.path.Extends hub.path.dropEmptyEnd c.word

theorem loses_of_names {c : Config} {hub : Address} {written : String} (h : c.Names hub)
    (hpassphrase : ¬isBlankText c.passphrase)
    (hwritten : Address.text { hub with path := hub.path.push c.word } = written)
    (hword : LoneDots c.word ∨ withoutMarks c.word ≠ c.word ∨ hub.path.segments = [[], []]) :
    c.Loses written := by
  obtain ⟨e, he, -⟩ := exists_endpoint h
  refine ⟨hub, e, h, hpassphrase, he, (text_endpoint h he hpassphrase).trans hwritten, fun hextends => ?_⟩
  obtain ⟨hdots, hmarks, hroot⟩ := (extends_endpoint_iff h he hpassphrase).mp hextends
  rcases hword with hlone | hmarked | hpath
  · exact hdots hlone
  · exact hmarked hmarks
  · exact hroot hpath

theorem some_passphrases_lost :
    (new "ws://h:1" "..").Loses "ws://h:1/" ∧ (new "ws://h:1" "a\tb").Loses "ws://h:1/ab" ∧
      (new "ws://h:1/a/b" ".\t.").Loses "ws://h:1/a/" ∧ (new "ws://h:1//" "pw").Loses "ws://h:1/pw" := by
  have hdots : (new "ws://h:1" "..").Names ⟨.ws, ⟨[], .name ['h'], some 1⟩, ⟨[[]]⟩, none, none⟩ :=
    (names_iff _ _).mpr (by decide +kernel)
  have htab : (new "ws://h:1" "a\tb").Names ⟨.ws, ⟨[], .name ['h'], some 1⟩, ⟨[[]]⟩, none, none⟩ :=
    (names_iff _ _).mpr (by decide +kernel)
  have hbelow : (new "ws://h:1/a/b" ".\t.").Names
      ⟨.ws, ⟨[], .name ['h'], some 1⟩, ⟨[['a'], ['b']]⟩, none, none⟩ := (names_iff _ _).mpr (by decide +kernel)
  have hslashes : (new "ws://h:1//" "pw").Names
      ⟨.ws, ⟨[], .name ['h'], some 1⟩, ⟨[[], []]⟩, none, none⟩ := (names_iff _ _).mpr (by decide +kernel)
  refine ⟨loses_of_names hdots ?_ ?_ (.inl ?_), loses_of_names htab ?_ ?_ (.inr (.inl ?_)),
    loses_of_names hbelow ?_ ?_ (.inr (.inl ?_)), loses_of_names hslashes ?_ ?_ (.inr (.inr rfl))⟩
  all_goals decide +kernel

end HubConsole.Session.Config
