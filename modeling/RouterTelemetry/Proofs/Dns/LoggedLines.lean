import RouterTelemetry.Proofs.Dns.Grammar
import RouterTelemetry.Proofs.Time.StampText
/-!
# Lines as they are written

A line that is written at an instant: what the clock of a zone shows then, the host, the resolver with the number of
its process, and a query or a reply. Main statements:

* `Logged.exists_form` : a line that is written has the form of a line, with its stamp and what it reports;
* `Logged.parse_eq` : so that it is read as that, if its stamp is.
-/

namespace RouterTelemetry

namespace Time.Zone

/-- What the clock of a zone shows at an instant: the same instant, as if it were one of UTC. -/
def reading (z : Zone) (t : Instant) : Instant :=
  ⟨t.secs + z.offsetAt t.secs, t.nanos⟩

/-- The local date at an instant. -/
def dateAt (z : Zone) (t : Instant) : Date :=
  Date.ofDays (z.reading t).dayNumber

end Time.Zone

namespace Dns

open Text Time
open Instant (padded)

/-- Whether a text can stand as the number of a process. -/
def IsNumber (n : String) : Prop :=
  n.toList ≠ [] ∧ ∀ c ∈ n.toList, isDigit c = true

instance (n : String) : Decidable (IsNumber n) :=
  decidable_of_iff (n.toList ≠ [] ∧ n.toList.all isDigit = true) (by simp [IsNumber])

/-- Whether a text can stand as the type of a query. -/
def IsQueryType (n : String) : Prop :=
  n.toList ≠ [] ∧ ∀ c ∈ n.toList, c ≠ ']'

instance (n : String) : Decidable (IsQueryType n) :=
  decidable_of_iff (n.toList ≠ [] ∧ n.toList.all (· != ']') = true) (by simp [IsQueryType])

/-- A line that is written at `t`, in the time of a zone, and what it reports. -/
inductive Logged (zone : Zone) (t : Instant) : String → Activity → Prop
  | query {host process type name client : String} (hhost : IsName host)
      (hprocess : IsNumber process) (htype : IsQueryType type) (hname : IsName name) (hclient : IsName client) :
      Logged zone t
        (String.ofList (zone.reading t).stampText ++ " " ++ host ++ " dnsmasq[" ++ process ++ "]: query[" ++ type ++
          "] " ++ name ++ " from " ++ client)
        (.query client name type)
  | reply {host process name answer : String} {missing : Bool} (hhost : IsName host)
      (hprocess : IsNumber process) (hname : IsName name) (hanswer : IsName answer)
      (hmissing : missing = true ↔ NamesNothing answer.toList) :
      Logged zone t
        (String.ofList (zone.reading t).stampText ++ " " ++ host ++ " dnsmasq[" ++ process ++ "]: reply " ++ name ++
          " is " ++ answer)
        (.reply name missing)

/-! ## The heading -/

/-- A decimal digit is a digit of some script. -/
theorem isDigit_of_decimal {c : Char} (h : Field.isDigit c = true) : isDigit c = true :=
  inRanges_iff.mpr ⟨('0'.toNat, '9'.toNat), by decide, Field.toNat_of_isDigit h⟩

/-- The heading of a line that is written when a clock shows `r`. -/
def Heading.written (r : Instant) (host process : String) : Heading where
  month := monthText (Date.ofDays r.dayNumber).month
  afterMonth := ' ' :: Instant.dayColumn (Date.ofDays r.dayNumber).day
  day := Nat.toDigits 10 (Date.ofDays r.dayNumber).day
  afterDay := [' ']
  hour := padded 2 (r.secondOfDay.toNat / 3600)
  minute := padded 2 (r.secondOfDay.toNat / 60 % 60)
  second := padded 2 (r.secondOfDay.toNat % 60 + if r.inLeapSecond then 1 else 0)
  afterClock := [' ']
  host := host.toList
  afterHost := [' ']
  process := process.toList
  afterProcess := [' ']

namespace Heading

theorem stamp_written (r : Instant) (host process : String) : (written r host process).stamp = r.stampText := by
  simp [stamp, written, Instant.stampText, Instant.clockText]

/-- Two columns of a time of day. -/
theorem fits_padded {n : Nat} (hn : n < 100) : (Piece.exactly 2 isDigit).Fits (padded 2 n) :=
  ⟨length_padded (by decide) hn, fun _ hc => isDigit_of_decimal (Field.isDigit_of_mem_padded hc)⟩

theorem fits_gap {b : List Char} (hb : Gap b) : (Piece.run isBlank).Fits b :=
  ⟨hb.ne_nil, hb.blank⟩

theorem fits_name {n : String} (hn : IsName n) : (Piece.run (!isBlank ·)).Fits n.toList :=
  ⟨hn.1, fun c hc => (Bool.not_eq_true' _).mpr (hn.2 c hc)⟩

/-- A heading that is written has the shape of one. -/
theorem fits_written (r : Instant) {host process : String} (hhost : IsName host) (hprocess : IsNumber process) :
    List.Forall₂ Piece.Fits shape (written r host process).parts := by
  obtain ⟨-, hm, hm', -, -⟩ := Date.ofDays_spec r.dayNumber
  obtain ⟨hlen, hword, -, -⟩ := monthText_spec hm hm'
  have hday : (Piece.run isDigit).Fits (Nat.toDigits 10 (Date.ofDays r.dayNumber).day) :=
    ⟨Nat.toDigits_ne_nil, fun c hc => isDigit_of_decimal (Field.isDigit_of_mem_toDigits c hc)⟩
  have hsecond : 0 ≤ r.secondOfDay ∧ r.secondOfDay < 86400 := by
    rw [Instant.secondOfDay, secondsPerDay]
    omega
  simp only [shape, parts, List.forall₂_cons, List.forall₂_nil_left_iff, and_true]
  refine ⟨⟨hlen, hword⟩, fits_gap (Instant.gap_dayColumn _), hday, fits_gap gap_blank, fits_padded (by omega), rfl,
    fits_padded (by omega), rfl, fits_padded ?_, fits_gap gap_blank, fits_name hhost, fits_gap gap_blank, rfl,
    hprocess, rfl, fits_gap gap_blank⟩
  split <;> omega

end Heading

/-! ## The whole line -/

/-- What is written of words around a third one. -/
theorem Report.fits_words (between : List Char) {first second : String} (hfirst : IsName first)
    (hsecond : IsName second) :
    List.Forall₂ Piece.Fits (wordsShape between) [first.toList, [' '], between, [' '], second.toList] := by
  simp only [wordsShape, List.forall₂_cons, List.forall₂_nil_left_iff, and_true]
  exact ⟨Heading.fits_name hfirst, Heading.fits_gap gap_blank, rfl, Heading.fits_gap gap_blank,
    Heading.fits_name hsecond⟩

/-- There are no blanks around a text that begins with a stamp and ends with a name. -/
theorem trim_stamped (r : Instant) (middle : List Char) {last : String} (hlast : IsName last) :
    trim (r.stampText ++ (middle ++ last.toList)) = r.stampText ++ (middle ++ last.toList) := by
  obtain ⟨-, hm, hm', -, -⟩ := Date.ofDays_spec r.dayNumber
  have hmonth := unbroken_monthText hm hm'
  obtain ⟨tail, htail⟩ : ∃ tail, r.stampText ++ (middle ++ last.toList) =
      monthText (Date.ofDays r.dayNumber).month ++ tail := by
    rw [Instant.stampText, List.append_assoc]
    exact ⟨_, rfl⟩
  have hhead : ∀ c ∈ (r.stampText ++ (middle ++ last.toList)).head?, isBlank c = false := by
    intro c hc
    rw [htail, List.head?_append_of_ne_nil _ hmonth.ne_nil] at hc
    exact hmonth.solid c (List.mem_of_mem_head? hc)
  have hend : ∀ c ∈ (r.stampText ++ (middle ++ last.toList)).getLast?, isBlank c = false := by
    intro c hc
    rw [← List.append_assoc, List.getLast?_append_of_ne_nil _ hlast.1] at hc
    exact hlast.2 c (List.mem_of_getLast? hc)
  have htrim : trim ([] ++ ((r.stampText ++ (middle ++ last.toList)) ++ [])) = r.stampText ++ (middle ++ last.toList) :=
    trim_between (by simp) (by simp) (by simp [hlast.1]) hhead hend
  rwa [List.append_nil, List.nil_append] at htrim

/-- What is written of a heading: the stamp, and what stands between it and the report. -/
theorem Heading.flatten_written (r : Instant) (host process : String) :
    (written r host process).parts.flatten =
      r.stampText ++ (" ".toList ++ (host.toList ++ (" dnsmasq[".toList ++ (process.toList ++ "]: ".toList)))) := by
  rw [← stamp_written r host process]
  simp [parts, stamp, written]

/-- A heading and a report that are written make a line. -/
theorem divides_written (r : Instant) {host process last : String} (hhost : IsName host)
    (hprocess : IsNumber process) {p : Report} (hp : List.Forall₂ Piece.Fits p.shape p.parts) {front : List Char}
    (hfront : p.parts.flatten = front ++ last.toList) (hlast : IsName last) {text : List Char}
    (htext : text = (Heading.written r host process).parts.flatten ++ p.parts.flatten) :
    Form.Divides ⟨Heading.written r host process, p, []⟩ (trim text) := by
  refine ⟨List.rel_append (Heading.fits_written r hhost hprocess) hp, by simp, ?_⟩
  have hparts : (Form.parts ⟨Heading.written r host process, p, []⟩).flatten = text := by
    rw [htext, Form.parts, List.flatten_append]
  dsimp only
  rw [hparts, List.append_nil, htext, Heading.flatten_written, hfront, List.append_assoc, ← List.append_assoc _ front]
  exact trim_stamped r _ hlast

namespace Logged

variable {zone : Zone} {t : Instant} {text : String} {a : Activity}

/-- **A line that is written has the form of a line**, with its stamp and what it reports. -/
theorem exists_form (h : Logged zone t text a) :
    ∃ f : Form, f.Divides (trim text.toList) ∧ f.heading.stamp = (zone.reading t).stampText ∧ f.report.Says a := by
  cases h with
  | @query host process type name client hhost hprocess htype hname hclient =>
    let p : Report := .query type.toList [' '] name.toList [' '] [' '] client.toList
    have hfits : List.Forall₂ Piece.Fits p.shape p.parts := by
      refine List.rel_append ?_ (Report.fits_words _ hname hclient)
      simp only [List.forall₂_cons, List.forall₂_nil_left_iff, and_true]
      exact ⟨rfl, ⟨htype.1, fun c hc => bne_iff_ne.mpr (htype.2 c hc)⟩, rfl, Heading.fits_gap gap_blank⟩
    have hfront : p.parts.flatten =
        "query[".toList ++ type.toList ++ "] ".toList ++ name.toList ++ " from ".toList ++ client.toList := by
      simp [p, Report.parts]
    refine ⟨_, divides_written (zone.reading t) hhost hprocess hfits hfront hclient ?_, Heading.stamp_written .., ?_⟩
    · rw [hfront, Heading.flatten_written]
      simp
    · simp [Report.Says, p]
  | @reply host process name answer missing hhost hprocess hname hanswer hmissing =>
    let p : Report := .reply [' '] name.toList [' '] [' '] answer.toList
    have hfits : List.Forall₂ Piece.Fits p.shape p.parts := by
      refine List.rel_append ?_ (Report.fits_words _ hname hanswer)
      simp only [List.forall₂_cons, List.forall₂_nil_left_iff, and_true]
      exact ⟨rfl, Heading.fits_gap gap_blank⟩
    have hfront : p.parts.flatten = "reply ".toList ++ name.toList ++ " is ".toList ++ answer.toList := by
      simp [p, Report.parts]
    refine ⟨_, divides_written (zone.reading t) hhost hprocess hfits hfront hanswer ?_, Heading.stamp_written .., ?_⟩
    · rw [hfront, Heading.flatten_written]
      simp
    · exact ⟨missing, by simp, hmissing⟩

/-- A line that is written is read as what it reports, at the time of its stamp. -/
theorem parse_eq (h : Logged zone t text a) (now : Instant) :
    Line.parse zone text now = (Line.instant zone (zone.reading t).stampText now).map fun t => ⟨t, a⟩ := by
  obtain ⟨f, hf, hstamp, hsays⟩ := h.exists_form
  rw [Line.parse_of_divides hf hsays, hstamp]

end Logged

end Dns

end RouterTelemetry
