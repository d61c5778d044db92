import RelayStore.Proofs.Event.Authentic
import RelayStore.Proofs.Event.Forms
import RelayStore.Proofs.Import.Dump
import RelayStore.Proofs.Import.HandingOver
import RelayStore.Proofs.Text.Hex

/-!
Reading on trust next to reading with verification. Main statement: verification only ever rejects.
A text that passes it is read on trust as the same event, and an import that trusts its files hands
over all that a verifying import of them does.
-/
namespace RelayStore

namespace Event

/-- The event with its digits in lower case. -/
def lowered (e : Event) : Event :=
  { e with id := e.id.toLower, pubkey := e.pubkey.toLower, sig := e.sig.toLower }

/-- The kind that a text gives, if it gives one, is written in the 16 bits that a kind has. -/
def NarrowKind (text : String) : Prop :=
  ∀ f, Fields.ofJson SignedEvent.form text = .ok f → f.kind < UInt16.size

theorem narrowKind_text (e : Event) : NarrowKind e.text := by
  intro f read
  rw [ofJson_text_fields (Nat.lt_trans e.createdAt.toNat_lt (by decide))
    (Nat.lt_trans e.kind.toNat_lt (by decide))] at read
  obtain rfl := Except.ok.inj read
  exact e.kind.toNat_lt

/-- The digits of some bytes pass the check for twice as many digits. -/
theorem checkHex_of_bytes? {n : Nat} {value : String} {bytes : List UInt8}
    (read : SignedEvent.bytes? n value = some bytes) (field : String) :
    checkHex field value (2 * n) = .ok () := by
  obtain ⟨decoded, rfl⟩ := SignedEvent.bytes?_eq_some.1 read
  obtain ⟨digits, length, -⟩ := Text.decodeHexList?_eq_some decoded
  have single : ∀ c ∈ value.toList, c.utf8Size = 1 := by
    intro c mem
    obtain ⟨n, digit⟩ := Option.isSome_iff_exists.1 (digits c mem)
    exact (Text.hexDigitValue?_eq_some digit).2.2
  have size : value.utf8ByteSize = 2 * bytes.length := by
    rw [← length, ← Text.utf8Len_eq_length single, ← String.utf8ByteSize_ofList,
      String.ofList_toList]
  have all : value.toList.all isHexDigit = true := List.all_eq_true.2 digits
  simp [checkHex, size, all]

/-- What a signed event was read from passes the checks of a stored one. -/
theorem check_ofFields {f : Fields} {s : SignedEvent} (read : SignedEvent.ofFields? f = some s) :
    (ofFields f).check = .ok () := by
  obtain ⟨id, pubkey, sig, -⟩ := SignedEvent.ofFields?_eq_some read
  simp only [check, ofFields, checkHex_of_bytes? id, checkHex_of_bytes? pubkey,
    checkHex_of_bytes? sig, ok_bind]

/-- The stored event is what the fields say, with all digits in lower case. -/
theorem lowered_ofFields {f : Fields} {s : SignedEvent} {e : Event}
    (read : SignedEvent.ofFields? f = some s) (stored : s.event = .ok e) :
    (ofFields f).lowered = e := by
  obtain ⟨id, pubkey, sig, -, time, kind, tags, content⟩ := SignedEvent.ofFields?_eq_some read
  obtain ⟨-, rfl⟩ := SignedEvent.event_eq_ok.1 stored
  rw [Text.encodeHex_of_decodeHex? (SignedEvent.bytes?_eq_some.1 id).1,
    Text.encodeHex_of_decodeHex? (SignedEvent.bytes?_eq_some.1 pubkey).1,
    Text.encodeHex_of_decodeHex? (SignedEvent.bytes?_eq_some.1 sig).1, time, kind, tags, content]
  rfl

/-- What verification accepts is read on trust too, in the digits of the text. A kind that is wider
than a kind may be is cut by the one and refused by the other. -/
theorem ofJson_of_ofSignedJson {text : String} {e : Event} (accepted : ofSignedJson text = .ok e) :
    ∃ f, Fields.ofJson SignedEvent.form text = .ok f ∧
      Fields.ofJson .stored text = f.within .stored ∧
      ofJson text = ((f.within .stored).map ofFields).mapError .json ∧
      (ofFields f).lowered = e := by
  obtain ⟨s, read, -, stored⟩ := ofSignedJson_eq_ok.1 accepted
  unfold SignedEvent.ofJson? at read
  split at read
  · next f fields =>
    have timely : f.createdAt < UInt32.size := by
      obtain ⟨-, -, -, -, time, -⟩ := SignedEvent.ofFields?_eq_some read
      rw [← time]
      exact (SignedEvent.event_eq_ok.1 stored).1
    have again : Fields.ofJson .stored text = f.within .stored :=
      Fields.ofJson_narrow rfl fields timely
    refine ⟨f, fields, again, ?_, lowered_ofFields read stored⟩
    rw [ofJson, again, Fields.within]
    split
    · simp only [mapError_ok, ok_bind, check_ofFields read]
      rfl
    · rfl
  · contradiction

theorem onTrust {text : String} {e : Event} (narrow : NarrowKind text)
    (accepted : ofSignedJson text = .ok e) :
    ∃ f, Fields.ofJson .stored text = .ok f ∧ ofJson text = .ok (ofFields f) ∧
      (ofFields f).lowered = e := by
  obtain ⟨f, fields, again, read, same⟩ := ofJson_of_ofSignedJson accepted
  have fits : f.within .stored = .ok f := if_pos (narrow f fields)
  rw [fits] at again read
  exact ⟨f, again, read, same⟩

end Event

namespace Import

/-! Lines. -/

theorem Line.event?_onTrust {l : Line} {e : Event}
    (narrow : ∀ text e, l = .text text → Event.ofSignedJson text = .ok e → Event.NarrowKind text)
    (verified : l.event? true = some e) : ∃ e', l.event? false = some e' ∧ e'.lowered = e := by
  cases l with
  | unreadable reason => contradiction
  | text s =>
    rw [event?] at verified ⊢
    split_ifs at verified ⊢ with blank
    simp only [Option.filter_eq_some_iff, toOption_eq_some] at verified ⊢
    obtain ⟨accepted, young⟩ := verified
    obtain ⟨f, -, read, same⟩ := Event.onTrust (narrow s e rfl accepted) accepted
    -- The time is the same in both, so neither is too old.
    have time : (Event.ofFields f).createdAt = e.createdAt := by rw [← same]; rfl
    exact ⟨Event.ofFields f, ⟨read, by rwa [time]⟩, same⟩

theorem good_sublist {ls : List Line}
    (narrow : ∀ text e, .text text ∈ ls → Event.ofSignedJson text = .ok e →
      Event.NarrowKind text) :
    (good true ls).Sublist ((good false ls).map Event.lowered) := by
  induction ls with
  | nil => exact List.Sublist.refl _
  | cons l ls ih =>
    have others := ih fun text e mem => narrow text e (List.mem_cons_of_mem l mem)
    cases verified : l.event? true with
    | none =>
      rw [good, List.filterMap_cons_none verified]
      cases trusted : l.event? false with
      | none =>
        rw [good, List.filterMap_cons_none trusted]
        exact others
      | some e' =>
        rw [good, List.filterMap_cons_some trusted]
        exact others.cons _
    | some e =>
      obtain ⟨e', trusted, rfl⟩ := Line.event?_onTrust
        (fun text e same => narrow text e (same ▸ List.mem_cons_self)) verified
      rw [good, good, List.filterMap_cons_some verified, List.filterMap_cons_some trusted]
      exact others.cons_cons _

/-! Runs. -/

/-- The events that a run hands over. -/
def handedTo {σ : Type} (o : Options) (tree : FileTree) (input : String) (handle : Handler σ)
    (s : σ) : List Event :=
  (trace o tree input handle s).2.map Prod.fst

theorem upTo_eq_self {α : Type} {last : α → Bool} {as : List α}
    (none : ∀ a ∈ upTo last as, last a = false) : upTo last as = as := by
  induction as with
  | nil => rfl
  | cons a as ih =>
    rw [upTo] at none ⊢
    split_ifs at none ⊢ with here
    · rw [none a List.mem_cons_self] at here
      contradiction
    · rw [ih fun b mem => none b (List.mem_cons_of_mem a mem)]

section Lenient

variable {σ : Type} {o : Options} {tree : FileTree} {input : String} {files : List File}

theorem calls_lenient (lenient : o.lenient = true) (selected : File.select tree input = .ok files)
    (handle : Handler σ) (s : σ) :
    (trace o tree input handle s).2 =
      upTo Call.stops
        (handle.calls (good o.verify ((reached (o.cut files)).flatMap File.met)) s) := by
  rw [trace_lenient lenient selected]

theorem handedTo_prefix (lenient : o.lenient = true) (selected : File.select tree input = .ok files)
    (handle : Handler σ) (s : σ) :
    handedTo o tree input handle s <+:
      good o.verify ((reached (o.cut files)).flatMap File.met) := by
  have part := (upTo_prefix_self Call.stops
    (handle.calls (good o.verify ((reached (o.cut files)).flatMap File.met)) s)).map Prod.fst
  rwa [handle.map_fst_calls, ← calls_lenient lenient selected] at part

/-- Nothing but the handler cuts a lenient run short. -/
theorem handedTo_eq_good (lenient : o.lenient = true)
    (selected : File.select tree input = .ok files) {handle : Handler σ} {s : σ}
    (endures : ∀ c ∈ (trace o tree input handle s).2, c.stops = false) :
    handedTo o tree input handle s = good o.verify ((reached (o.cut files)).flatMap File.met) := by
  rw [calls_lenient lenient selected] at endures
  rw [handedTo, calls_lenient lenient selected, upTo_eq_self endures, handle.map_fst_calls]

/-- A handler that always wants more does not end a run. -/
theorem endures_of_willing (lenient : o.lenient = true)
    (selected : File.select tree input = .ok files) (handle : Handler σ)
    (willing : ∀ e s, (handle e s).1 = .ok true) (s : σ) :
    ∀ c ∈ (trace o tree input handle s).2, c.stops = false := by
  have calls : ∀ (es : List Event) (s : σ), ∀ c ∈ handle.calls es s, c.stops = false := by
    intro es
    induction es with
    | nil => simp [Handler.calls]
    | cons e es ih =>
      intro s
      rw [Handler.calls, List.forall_mem_cons]
      exact ⟨by simp [Call.stops, willing], ih _⟩
  rw [calls_lenient lenient selected]
  intro c mem
  exact calls _ s c ((upTo_prefix_self _ _).subset mem)

end Lenient

/-- A text that gives its kind in 16 bits and passes verification is read on trust as the same
event, its digits as the text has them. So a lenient import that trusts the files hands over, but
for the case of digits, all events that a verifying one does and in their order, if its handler does
not end it. Nothing is asked of the lines that verification rejects. -/
theorem verification_only_rejects :
    (∀ (text : String) (e : Event), Event.NarrowKind text → Event.ofSignedJson text = .ok e →
      ∃ f, Event.Fields.ofJson .stored text = .ok f ∧
        Event.ofJson text = .ok (Event.ofFields f) ∧ (Event.ofFields f).lowered = e) ∧
    ∀ (o : Options) (tree : FileTree) (input : String),
      (∀ files, File.select tree input = .ok files →
        ∀ text e, .text text ∈ (o.cut files).flatMap File.met → Event.ofSignedJson text = .ok e →
          Event.NarrowKind text) →
      ∀ (σ τ : Type) (verifying : Handler σ) (s : σ) (trusting : Handler τ) (t : τ),
        (∀ c ∈ (trace { o with verify := false, lenient := true } tree input trusting t).2,
          c.stops = false) →
        (handedTo { o with verify := true, lenient := true } tree input verifying s).Sublist
          ((handedTo { o with verify := false, lenient := true } tree input trusting t).map
            Event.lowered) := by
  constructor
  · intro text e narrow accepted
    exact Event.onTrust narrow accepted
  · intro o tree input narrow σ τ verifying s trusting t endures
    cases selected : File.select tree input with
    | error e =>
      have nothing : handedTo { o with verify := true, lenient := true } tree input verifying s =
          [] := by
        rw [handedTo, trace, run_missing selected, run_missing selected]
        rfl
      rw [nothing]
      exact List.nil_sublist _
    | ok files =>
      rw [handedTo_eq_good rfl selected endures]
      have part := handedTo_prefix (o := { o with verify := true, lenient := true }) rfl selected
        verifying s
      refine part.sublist.trans (good_sublist fun text e mem => narrow files selected text e ?_)
      obtain ⟨f, come, met⟩ := List.mem_flatMap.1 mem
      exact List.mem_flatMap.2 ⟨f, (upTo_prefix_self _ _).subset come, met⟩

/-- An event that nobody signed. Its last tag has no name. -/
def unsignedSample : Event := dumpSample.headD {}

/-- The unsigned event, and one that its author signed. -/
def mixedLines : List (String × LineEnd) :=
  [(unsignedSample.text, .newline), (Event.shuffledSample.text, .returnAndNewline)]

def mixedFile : File where
  name := "mixed.jsonl"
  bytes := written mixedLines

def mixedTree : FileTree where
  root := "/data"
  files := [(["mixed.jsonl"], mixedFile.bytes)]

theorem printable_shuffledSample : Printable Event.shuffledSample.text := by
  intro c mem
  rw [Json.Value.text, String.toList_ofList] at mem
  exact Json.Value.printable _ Event.exact_shuffledSample c mem

theorem met_mixedFile :
    mixedFile.met = [.text unsignedSample.text, .text Event.shuffledSample.text] := by
  have contents : mixedFile.contents = ⟨written mixedLines, none⟩ := rfl
  refine (File.met_opened rfl).trans (File.lines_of_written contents ?_)
  simp only [mixedLines, List.forall_mem_cons, List.not_mem_nil, false_implies, implies_true,
    and_true]
  exact ⟨Event.printable_text _, printable_shuffledSample⟩

theorem narrowKind_shuffledSample : Event.NarrowKind Event.shuffledSample.text := by
  intro f read
  rw [Event.fields_shuffledSample] at read
  obtain rfl := Except.ok.inj read
  decide

theorem narrowKind_mixedFile :
    ∀ text, .text text ∈ mixedFile.met → Event.NarrowKind text := by
  intro text mem
  simp only [met_mixedFile, List.mem_cons, List.not_mem_nil, or_false, Line.text.injEq] at mem
  rcases mem with rfl | rfl
  · exact Event.narrowKind_text _
  · exact narrowKind_shuffledSample

theorem good_mixedFile : good true mixedFile.met = [Event.signedSample] := by
  have unsigned : Line.event? true (.text unsignedSample.text) = none := by
    have read : SignedEvent.ofJson? unsignedSample.text = none := by
      rw [SignedEvent.ofJson?, Event.ofJson_text_fields (by decide) (by decide)]
      decide +kernel
    have refused : readEvent true unsignedSample.text = .error (.signature .unreadable) := by
      rw [readEvent, if_pos rfl, Event.ofSignedJson, read]
    rw [Line.event?, refused]
    exact ite_self none
  have signed : Line.event? true (.text Event.shuffledSample.text) = some Event.signedSample := by
    have filled : Text.isBlankText Event.shuffledSample.text = false := by
      rw [Text.isBlankText, Json.Value.text, String.toList_ofList]
      rfl
    rw [Line.event?, filled, if_neg Bool.false_ne_true, readEvent, if_pos rfl,
      Event.accepts_shuffledSample]
    rfl
  rw [met_mixedFile, good, List.filterMap_cons_none unsigned, List.filterMap_cons_some signed]
  rfl

theorem verification_only_rejects_unsigned :
    (∃ f, Event.Fields.ofJson .stored Event.shuffledSample.text = .ok f ∧
      Event.ofJson Event.shuffledSample.text = .ok (Event.ofFields f) ∧
      (Event.ofFields f).lowered = Event.signedSample) ∧
    handedTo {} mixedTree "mixed.jsonl" CommandLine.collect [] = [Event.signedSample] ∧
    [Event.signedSample].Sublist ((handedTo ⟨false, true, none⟩ mixedTree "mixed.jsonl"
      CommandLine.collect []).map Event.lowered) := by
  have selected : File.select mixedTree "mixed.jsonl" = .ok [mixedFile] := rfl
  have lines : [mixedFile].flatMap File.met = mixedFile.met := by simp
  have narrow : ∀ files, File.select mixedTree "mixed.jsonl" = .ok files →
      ∀ text e, .text text ∈ (Options.cut {} files).flatMap File.met →
        Event.ofSignedJson text = .ok e → Event.NarrowKind text := by
    intro files found
    rw [selected] at found
    obtain rfl := Except.ok.inj found
    rw [show Options.cut {} [mixedFile] = [mixedFile] from rfl, lines]
    exact fun text _ mem _ => narrowKind_mixedFile text mem
  have endures (o : Options) (lenient : o.lenient = true) :=
    endures_of_willing lenient selected CommandLine.collect (fun _ _ => rfl) []
  have verified : handedTo {} mixedTree "mixed.jsonl" CommandLine.collect [] =
      [Event.signedSample] := by
    rw [handedTo_eq_good rfl selected (endures {} rfl)]
    rw [show reached (Options.cut {} [mixedFile]) = [mixedFile] from rfl, lines]
    exact good_mixedFile
  refine ⟨?_, verified, ?_⟩
  · refine verification_only_rejects.1 _ _ (narrowKind_mixedFile _ ?_) Event.accepts_shuffledSample
    simp [met_mixedFile]
  · rw [← verified]
    exact verification_only_rejects.2 {} mixedTree "mixed.jsonl" narrow _ _ CommandLine.collect []
      CommandLine.collect [] (endures ⟨false, true, none⟩ rfl)

end Import
end RelayStore
