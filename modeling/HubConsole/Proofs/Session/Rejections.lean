import HubConsole.Proofs.Rpc.Envelopes
import HubConsole.Proofs.Rpc.Recovery
import HubConsole.Proofs.Session.Effects

namespace HubConsole.Session

open HubConsole.Json HubConsole.Rpc

/-- What the end of a request means for others: a call gets its reply. -/
def Entry.told : Entry → Reply → List LinkEffect
  | .call ticket, reply => [.replied ticket reply]
  | .subscription, _ => []

namespace Link

/-- The request with a number is ended with a reply, if there is one in flight, and nothing else happens. -/
inductive Settled (l : Link) (pending : Pending) (number : Option Nat) (reply : Reply) :
    Link × List LinkEffect → Prop
  | one {n : Nat} {entry : Entry} {before after : Pending} (hnumber : number = some n)
      (hentry : pending.entry? n = some entry) (hpending : pending = before ++ (n, entry) :: after) :
      Settled l pending number reply
        ({ l with phase := .open (before ++ after) }, entry.told reply)
  | none (h : ∀ n, number = some n → ∀ p ∈ pending, p.1 ≠ n) : Settled l pending number reply (l, [])

variable {config config' : Config} {l : Link} {pending : Pending} {text : String}

theorem settled_resolve (hphase : l.phase = .open pending) (number : Option Nat) (reply : Reply) :
    Settled l pending number reply
      ({ l with phase := .open (pending.resolve number reply).1 }, (pending.resolve number reply).2) := by
  have hsame : { l with phase := .open pending } = l := by rw [← hphase]
  cases number with
  | none =>
    rw [Pending.resolve, hsame]
    exact .none nofun
  | some n =>
    unfold Pending.resolve
    dsimp only
    split
    · next hentry =>
      rw [hsame]
      refine .none fun m hm => ?_
      obtain rfl := Option.some.inj hm
      exact Pending.entry?_eq_none pending n hentry
    · next ticket hentry =>
      obtain ⟨before, after, hpending, herase⟩ := Pending.entry?_eq_some pending n _ hentry
      rw [herase]
      exact .one rfl hentry hpending
    · next hentry =>
      obtain ⟨before, after, hpending, herase⟩ := Pending.entry?_eq_some pending n _ hentry
      rw [herase]
      exact .one rfl hentry hpending

/-- Which request is ended does not depend on the reply. -/
theorem resolve_fst (number : Option Nat) (reply reply' : Reply) :
    (pending.resolve number reply).1 = (pending.resolve number reply').1 := by
  unfold Pending.resolve
  split
  · rfl
  · split <;> rfl

theorem step_received (hphase : l.phase = .open pending) :
    l.step config (.received text) =
      ({ l with phase := .open (l.receive config pending text).1 }, (l.receive config pending text).2) := by
  simp only [step, hphase]

theorem step_response (hphase : l.phase = .open pending) {id : Id} {outcome : Outcome}
    (hdecode : Frame.decode text config.maxFrameBytes = .ok (.response id outcome)) :
    l.step config (.received text) =
      ({ l with phase := .open (pending.resolve id.toNat? (.ok outcome)).1 },
        (pending.resolve id.toNat? (.ok outcome)).2) := by
  rw [step_received hphase]
  simp only [receive, hdecode]

theorem step_rejected (hphase : l.phase = .open pending) {fault : FrameError}
    (hdecode : Frame.decode text config.maxFrameBytes = .error fault) :
    let number := (Frame.recoverId? text).bind Id.toNat?
    l.step config (.received text) =
      ({ l with phase := .open (pending.resolve number (.error (.frame fault))).1 },
        (pending.resolve number (.error (.frame fault))).2) := by
  intro number
  rw [step_received hphase]
  simp only [receive, hdecode, number]

theorem Settled.keeps {number : Option Nat} {reply : Reply} {r : Link × List LinkEffect}
    (hphase : l.phase = .open pending) (h : Settled l pending number reply r) :
    r.1.state = l.state ∧ r.1.sinks = l.sinks ∧ r.1.queue = l.queue := by
  cases h with
  | one => exact ⟨by simp only [state, hphase], rfl, rfl⟩
  | none => exact ⟨rfl, rfl, rfl⟩

/-- A response that is too long ends the request that it would have answered. -/
theorem settled_oversized (hphase : l.phase = .open pending) {id : Id} {outcome : Outcome}
    (hrecover : Frame.recoverId? text = some id)
    (hdecode : Frame.decode text config'.maxFrameBytes = .ok (.response id outcome))
    (hsize : config.maxFrameBytes < Frame.size text) :
    Settled l pending id.toNat? (.ok outcome) (l.step config' (.received text)) ∧
      Settled l pending id.toNat? (.error (.frame (.oversized (Frame.size text) config.maxFrameBytes)))
        (l.step config (.received text)) ∧
      (l.step config (.received text)).1 = (l.step config' (.received text)).1 := by
  have hdecode' : Frame.decode text config.maxFrameBytes =
      .error (.oversized (Frame.size text) config.maxFrameBytes) := Frame.decode_oversized hsize
  have hrejected := step_rejected hphase hdecode'
  rw [hrecover] at hrejected
  dsimp only [Option.bind_some] at hrejected
  rw [step_response hphase hdecode, hrejected]
  refine ⟨settled_resolve hphase _ _, settled_resolve hphase _ _, ?_⟩
  rw [resolve_fst id.toNat? _ (.ok outcome)]

/-- The two ways to find a request agree. If a text is one object and is read as a response, its id is found in
the text as well, and a link that refuses the text as too long ends the same request that it would have answered
otherwise, with an error for the caller. Whatever the text, a link that refuses it fails at most one request, the
one with the id that is found; the other requests stay, and so does all else. -/
theorem rejection_finds_request (l : Link) (pending : Pending) (hphase : l.phase = .open pending)
    (text : String) :
    (∀ members config' id outcome, Reader.free.ofText text = .ok (.object members) →
      Frame.decode text config'.maxFrameBytes = .ok (.response id outcome) →
        Frame.recoverId? text = some id ∧
          ∀ config, config.maxFrameBytes < Frame.size text →
            Settled l pending id.toNat? (.ok outcome) (l.step config' (.received text)) ∧
            Settled l pending id.toNat?
              (.error (.frame (.oversized (Frame.size text) config.maxFrameBytes)))
              (l.step config (.received text)) ∧
            (l.step config (.received text)).1 = (l.step config' (.received text)).1) ∧
      ∀ config fault, Frame.decode text config.maxFrameBytes = .error fault →
        let r := l.step config (.received text)
        Settled l pending ((Frame.recoverId? text).bind Id.toNat?) (.error (.frame fault)) r ∧
          r.1.state = l.state ∧ r.1.sinks = l.sinks ∧ r.1.queue = l.queue := by
  refine ⟨fun members config' id outcome hfree hdecode => ?_, fun config fault hdecode => ?_⟩
  · have hrecover := Frame.recoverId?_of_response hfree hdecode
    exact ⟨hrecover, fun config hsize => settled_oversized hphase hrecover hdecode hsize⟩
  · have hsettled := settled_resolve hphase ((Frame.recoverId? text).bind Id.toNat?) (.error (.frame fault))
    rw [step_rejected hphase hdecode]
    exact ⟨hsettled, hsettled.keeps hphase⟩

/-- The answer to a call comes with a line end and is too long; the call fails, a call with another id stays. -/
theorem rejected_answer_with_text_id :
    let text := "\x7b\"id\":\" 4\",\"result\":null\x7d\n"
    let config : Config := { Config.new "" "" with maxFrameBytes := 16 }
    let inFlight : Pending := [(3, .call 0), (4, .call 1)]
    let l : Link := { start config with phase := .open inFlight }
    let r := l.step config (.received text)
    Frame.recoverId? text = some (.text " 4") ∧
      Settled l inFlight (some 4) (.error (.frame (.oversized 25 16))) r ∧ r.1.pending = [(3, .call 0)] := by
  intro text config inFlight l r
  have hsource : Source.ofText text =
      (.object [(some "id", .string (some " 4")), (some "result", .null)] true, true) := by
    unfold text
    rfl
  have hsize : Frame.size text = 25 := by decide +kernel
  have hfree : Reader.free.ofText text =
      .ok (.object (Value.arrange [("id", .string " 4"), ("result", .null)])) := by
    rw [Reader.ofText, hsource]
    rfl
  have henvelope : Envelope.form.read.ofText (Frame.trimLineEnds text) =
      .ok ⟨some (.text " 4"), some .null, none, none, none, none⟩ := by
    rw [Reader.ofText, Frame.ofText_trimLineEnds, hsource]
    rfl
  have hdecode : Frame.decode text (Config.new "" "").maxFrameBytes =
      .ok (.response (.text " 4") (.ok .null)) := by
    have hfits : (Frame.trimLineEnds text).utf8ByteSize ≤ (Config.new "" "").maxFrameBytes := by
      rw [← Frame.size, hsize]
      decide
    rw [Frame.decode, if_pos hfits, henvelope]
    rfl
  have hnumber : (Id.text " 4").toNat? = some 4 := by decide +kernel
  obtain ⟨hfound, -⟩ := rejection_finds_request l inFlight rfl text
  obtain ⟨hrecover, hlimited⟩ := hfound _ _ _ _ hfree hdecode
  obtain ⟨-, hsettled, hsame⟩ := hlimited config (by rw [hsize]; decide)
  rw [hnumber, hsize] at hsettled
  refine ⟨hrecover, hsettled, ?_⟩
  rw [hsame, step_response (show l.phase = .open inFlight from rfl) hdecode, hnumber]
  rfl

end Link
end HubConsole.Session
