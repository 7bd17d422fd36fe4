import HubConsole.Proofs.Text.Lines
import HubConsole.Proofs.Url.Paths
import HubConsole.Url.Parse
import Mathlib.Data.List.TakeDrop

namespace HubConsole.Url

open HubConsole.Text

/-- An address whose path, query and fragment are read as they are written. -/
structure Address.Settled (a : Address) : Prop where
  path : a.path.Settled
  query : ∀ q ∈ a.query, ∀ c ∈ q, Reserved.query.Keeps c
  fragment : ∀ f ∈ a.fragment, ∀ c ∈ f, Reserved.fragment.Keeps c

namespace Address

def queryText (a : Address) : List Char :=
  match a.query with
  | some q => '?' :: q
  | none => []

def fragmentText (a : Address) : List Char :=
  match a.fragment with
  | some f => '#' :: f
  | none => []

/-- What comes after the host and its port. -/
def restText (a : Address) : List Char := a.path.text ++ (a.queryText ++ a.fragmentText)

theorem toList_text (a : Address) :
    a.text.toList = a.scheme.name.toList ++ "://".toList ++ a.authority.text ++ a.restText := by
  rw [text, String.toList_ofList, restText]
  simp only [List.append_assoc]
  rfl

end Address

theorem cutBefore_append (p : Char → Bool) (cs rest : List Char) (hcs : ∀ c ∈ cs, p c = false)
    (hrest : ∀ c ∈ rest.head?, p c) : cutBefore p (cs ++ rest) = (cs, rest) := by
  have hkept : ∀ c ∈ cs, (!p c) = true := fun c hc => by simp [hcs c hc]
  have htake : rest.takeWhile (fun c => !p c) = [] := by
    cases rest with
    | nil => rfl
    | cons c rest => simp [hrest c rfl]
  have hdrop : rest.dropWhile (fun c => !p c) = rest := by
    cases rest with
    | nil => rfl
    | cons c rest => simp [hrest c rfl]
  rw [cutBefore, List.span_eq_takeWhile_dropWhile, List.takeWhile_append_of_pos hkept,
    List.dropWhile_append_of_pos hkept, htake, hdrop, List.append_nil]

theorem settled_readRest (scheme : Scheme) (authority : Authority) (cs : List Char) :
    (readRest scheme authority cs).Settled := by
  refine ⟨Path.settled_ofText _, ?_, ?_⟩
  · intro q hq
    simp only [readRest, Option.mem_def] at hq
    split at hq
    · cases hq
    · obtain rfl := Option.some.inj hq
      exact keeps_of_mem_escape _ _ (fun c hc => hc) (List.all_iff_forall_prop.mp (by decide)) _
  · intro f hf
    simp only [readRest, Option.mem_def] at hf
    split at hf
    · cases hf
    · obtain rfl := Option.some.inj hf
      exact keeps_of_mem_escape _ _ (fun c hc => hc) (List.all_iff_forall_prop.mp (by decide)) _

namespace Address

theorem Settled.path_free {a : Address} (h : a.Settled) :
    ∀ c ∈ a.path.text, (c = '?' || c = '#') = false := by
  have hreserved : ∀ c ∈ ['?', '#'], c ∈ Reserved.path.chars :=
    List.all_iff_forall_prop.mp (by decide)
  intro c hc
  rcases List.mem_cons.mp hc with rfl | hc
  · rfl
  · rcases mem_of_mem_intercalate _ _ c hc with hslash | ⟨s, hs, hc⟩
    · rw [List.mem_singleton.mp hslash]
      rfl
    · have hkept := ((h.path.lasting s hs).1 c hc).1
      have hfree : c ∉ ['?', '#'] := fun hmem => hkept (.inr (.inr (hreserved c hmem)))
      simpa using hfree

theorem Settled.queryText_free {a : Address} (h : a.Settled) : ∀ c ∈ a.queryText, decide (c = '#') = false := by
  intro c hc
  rw [queryText] at hc
  split at hc
  · next q hq =>
    rcases List.mem_cons.mp hc with rfl | hc
    · rfl
    · have hkept := h.query q hq c hc
      refine decide_eq_false fun hmark => hkept (.inr (.inr ?_))
      rw [hmark]
      decide
  · cases hc

theorem head?_fragmentText (a : Address) : ∀ c ∈ a.fragmentText.head?, c = '#' := by
  rw [fragmentText]
  split <;> simp

end Address

theorem readRest_restText {a : Address} (h : a.Settled) :
    readRest a.scheme a.authority a.restText = a := by
  have hpath : cutBefore (fun c => c = '?' || c = '#') a.restText =
      (a.path.text, a.queryText ++ a.fragmentText) := by
    refine cutBefore_append _ _ _ h.path_free fun c hc => ?_
    rw [Address.queryText] at hc
    split at hc
    · obtain rfl := Option.some.inj hc
      rfl
    · simp [a.head?_fragmentText c hc]
  have hquery : cutBefore (· = '#') (a.queryText ++ a.fragmentText) = (a.queryText, a.fragmentText) :=
    cutBefore_append _ _ _ h.queryText_free fun c hc => decide_eq_true (a.head?_fragmentText c hc)
  have hpathText : Path.ofText (a.path.text.drop 1) = a.path := Path.ofText_text h.path
  have hqueryKept : ∀ q ∈ a.query, escape .query q = q := fun q hq => escape_of_keeps _ q (h.query q hq)
  have hfragmentKept : ∀ f ∈ a.fragment, escape .fragment f = f :=
    fun f hf => escape_of_keeps _ f (h.fragment f hf)
  rw [readRest, hpath]
  simp only [hquery]
  obtain ⟨scheme, authority, path, query, fragment⟩ := a
  cases query <;> cases fragment <;> simp_all [Address.queryText, Address.fragmentText, Path.text]

/-- A hub listens on a web socket, and its address is read as it is written. -/
theorem of_parse_eq_hub {s : String} {a : Address} (h : parse s = .ok (.hub a)) :
    (a.scheme = .ws ∨ a.scheme = .wss) ∧ a.Settled := by
  have haddress (scheme : Scheme) (cs : List Char)
      (h : (readAddress scheme cs).map Target.hub = .ok (.hub a)) : a.scheme = scheme ∧ a.Settled := by
    simp only [readAddress] at h
    cases hauthority : readAuthority scheme (!(cutBefore (endsAuthority scheme) cs).2.isEmpty)
      (cutBefore (endsAuthority scheme) cs).1 with
    | error e =>
      rw [hauthority] at h
      cases h
    | ok authority =>
      rw [hauthority] at h
      cases h
      exact ⟨rfl, settled_readRest _ _ _⟩
  have hother {α : Type} (r : Except Fault α) (name : String)
      (h : (r.map fun _ => Target.unsupported name) = .ok (.hub a)) : False := by
    cases r <;> cases h
  rw [parse] at h
  split at h
  · cases h
  · next scheme rest hscheme =>
    split at h
    · exact (haddress _ _ h).imp_left .inl
    · exact (haddress _ _ h).imp_left .inr
    · cases hother _ _ h
    · cases hother _ _ h
    · split at h
      · cases hother _ _ h
      · cases h

end HubConsole.Url
