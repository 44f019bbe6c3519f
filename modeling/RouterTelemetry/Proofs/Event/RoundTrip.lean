import Mathlib.Data.List.Nodup
import RouterTelemetry.Event.Printer
import RouterTelemetry.Event.Reader
import RouterTelemetry.Proofs.Json.RoundTrip
import RouterTelemetry.Proofs.Time.Rfc3339
/-!
# Batches survive as bytes

A batch is read back from the bytes in which it is sent and stored. What its types cannot say is said by `Fits`:
numbers have the widths of their fields, and times are times that a clock can show. Texts are any texts. Main
statements:

* `ofJson?_toJson` : for each record, its written form is read as the record;
* `Batch.isExact_toJson` : the written form of a batch can be told from its compact text;
* `Batch.survives` : the bytes of a batch are read as that batch, and are those of no other one.
-/

namespace RouterTelemetry

/-! ## Values that fit -/

/-- The numbers of a dropped packet have the widths of their fields. -/
structure FirewallDrop.Fits (d : FirewallDrop) : Prop where
  nflogGroup : d.nflogGroup ≤ max16
  srcPort : d.srcPort ≤ max16
  dstPort : d.dstPort ≤ max16
  l4proto : d.l4proto ≤ max8

/-- The numbers of a flow have the widths of their fields, and its times can be shown. -/
structure Flow.Fits (f : Flow) : Prop where
  srcPort : f.srcPort ≤ max16
  dstPort : f.dstPort ≤ max16
  l4proto : f.l4proto ≤ max8
  bytesOrig : f.bytesOrig ≤ max64
  bytesReply : f.bytesReply ≤ max64
  packetsOrig : f.packetsOrig ≤ max64
  packetsReply : f.packetsReply ≤ max64
  firstSeen : f.firstSeen.Shown
  lastSeen : f.lastSeen.Shown

/-- The numbers of a bucket have the widths of their fields, and its time can be shown. -/
structure DnsBucket.Fits (b : DnsBucket) : Prop where
  bucketStart : b.bucketStart.Shown
  count : b.count ≤ max64
  nxdomain : b.nxdomain ≤ max64

/-- What an event carries has numbers of the widths of their fields and times that can be shown. -/
def Payload.Fits : Payload → Prop
  | .heartbeat _ => True
  | .firewallDrop d => d.Fits
  | .flow f => f.Fits
  | .dnsBucket b => b.Fits
  | .hostIdentity h => h.lastSeen.Shown

/-- The time of an event can be shown, and what it carries fits. -/
structure Event.Fits (e : Event) : Prop where
  time : e.time.Shown
  payload : e.payload.Fits

/-- The time of a batch can be shown, and all its events fit. -/
structure Batch.Fits (b : Batch) : Prop where
  sentAt : b.sentAt.Shown
  events : ∀ e ∈ b.events, e.Fits

/-! ## Fields -/

namespace Json

/-- An object that has the fields of a record in order, or some of them, is read by field. -/
theorem record?_object {names : List String} {members : List (String × Json)}
    (hkeys : (members.map Prod.fst).Sublist names) (hnodup : names.Nodup) :
    record? names (.object members) = some fun k => members.lookup k := by
  refine if_pos (List.all_eq_true.mpr fun k _ => decide_eq_true ?_)
  have hcount : members.countP (fun m => m.1 == k) = (members.map Prod.fst).count k := by
    rw [List.count, List.countP_map]
    rfl
  rw [hcount]
  exact List.nodup_iff_count_le_one.mp (hkeys.nodup hnodup) k

/-- A member is looked for behind one with another key. -/
theorem lookup_cons_of_ne {k k' : String} (h : k ≠ k') (v : Json) (members : List (String × Json)) :
    ((k', v) :: members).lookup k = members.lookup k := by
  rw [List.lookup_cons, beq_false_of_ne h]

@[simp]
theorem text?_string (s : String) : text? (.string s) = some s :=
  rfl

@[simp]
theorem bool?_bool (b : Bool) : bool? (.bool b) = some b :=
  rfl

theorem nat?_nat {n max : Nat} (h : n ≤ max) : nat? max (.nat n) = some n :=
  if_pos h

theorem instant?_ofInstant {t : Time.Instant} (h : t.Shown) : instant? (.ofInstant t) = some t := by
  rw [instant?, ofInstant, text?, Option.bind_some, String.toList_ofList, Time.Rfc3339.read_text h]
  rfl

theorem mapM_map_eq_some {α β : Type} {f : β → Option α} {g : α → β} {xs : List α}
    (h : ∀ x ∈ xs, f (g x) = some x) : (xs.map g).mapM f = some xs := by
  induction xs with
  | nil => rfl
  | cons x xs ih =>
    obtain ⟨hx, hxs⟩ := List.forall_mem_cons.mp h
    rw [List.map_cons, List.mapM_cons, hx, ih hxs]
    rfl

theorem texts?_ofTexts (xs : List String) : texts? (.ofTexts xs) = some xs :=
  mapM_map_eq_some fun _ _ => rfl

/-- A text that may be null. -/
theorem optional?_getD (o : Option String) :
    optional? text? (some ((o.map Json.string).getD .null)) = some o := by
  cases o <;> rfl

end Json

/-! ## Records -/

open Json

theorem Heartbeat.ofJson?_toJson (h : Heartbeat) : ofJson? h.toJson = some h := by
  rw [toJson, ofJson?, record?_object (by exact .refl _) (by decide)]
  rfl

theorem FirewallDrop.ofJson?_toJson {d : FirewallDrop} (h : d.Fits) : ofJson? d.toJson = some d := by
  rw [toJson, ofJson?, record?_object (by exact .refl _) (by decide)]
  simp [lookup_cons_of_ne, optional?_getD, nat?_nat h.nflogGroup, nat?_nat h.srcPort, nat?_nat h.dstPort,
    nat?_nat h.l4proto]

theorem DnsContext.ofJson?_toJson (c : DnsContext) : ofJson? c.toJson = some c := by
  rw [toJson, ofJson?, record?_object (by exact .refl _) (by decide)]
  simp [lookup_cons_of_ne, texts?_ofTexts]

/-- A flow without context leaves that member out. -/
theorem optional?_dnsContext (o : Option DnsContext) :
    optional? DnsContext.ofJson? ((o.map fun c => ("dns_context", c.toJson)).toList.lookup "dns_context") =
      some o := by
  cases o with
  | none => rfl
  | some c =>
    show (DnsContext.ofJson? c.toJson).map some = some (some c)
    rw [c.ofJson?_toJson, Option.map_some]

theorem Flow.ofJson?_toJson {f : Flow} (h : f.Fits) : ofJson? f.toJson = some f := by
  rw [toJson, ofJson?, record?_object _ (by decide), Option.bind_eq_bind, Option.bind_some]
  · -- the fields first: what is made of them is large
    simp only [List.cons_append, List.nil_append, List.lookup_cons_self, lookup_cons_of_ne, ne_eq, String.reduceEq,
      not_false_eq_true, Option.bind_some, Option.getD_some, text?_string, nat?_nat h.srcPort, nat?_nat h.dstPort,
      nat?_nat h.l4proto, nat?_nat h.bytesOrig, nat?_nat h.bytesReply, nat?_nat h.packetsOrig,
      nat?_nat h.packetsReply, instant?_ofInstant h.firstSeen, instant?_ofInstant h.lastSeen, optional?_dnsContext]
    rfl
  · rw [List.map_append]
    -- the last field may be missing
    have hlast : ((f.dnsContext.map fun c => ("dns_context", c.toJson)).toList.map Prod.fst).Sublist
        ["dns_context"] := by
      cases f.dnsContext with
      | none => exact List.nil_sublist _
      | some c => exact .refl _
    exact hlast.append_left _

theorem DnsBucket.ofJson?_toJson {b : DnsBucket} (h : b.Fits) : ofJson? b.toJson = some b := by
  rw [toJson, ofJson?, record?_object (by exact .refl _) (by decide)]
  simp [lookup_cons_of_ne, nat?_nat h.count, nat?_nat h.nxdomain, instant?_ofInstant h.bucketStart]

theorem HostIdentity.ofJson?_toJson {i : HostIdentity} (h : i.lastSeen.Shown) : ofJson? i.toJson = some i := by
  rw [toJson, ofJson?, record?_object (by exact .refl _) (by decide)]
  simp [lookup_cons_of_ne, texts?_ofTexts, instant?_ofInstant h]

theorem Payload.ofJson?_toJson {p : Payload} (h : p.Fits) : ofJson? p.kind p.toJson = some p := by
  cases p with
  | heartbeat p => rw [kind, ofJson?, toJson, p.ofJson?_toJson, Option.map_some]
  | firewallDrop p => rw [kind, ofJson?, toJson, FirewallDrop.ofJson?_toJson h, Option.map_some]
  | flow p => rw [kind, ofJson?, toJson, Flow.ofJson?_toJson h, Option.map_some]
  | dnsBucket p => rw [kind, ofJson?, toJson, DnsBucket.ofJson?_toJson h, Option.map_some]
  | hostIdentity p => rw [kind, ofJson?, toJson, HostIdentity.ofJson?_toJson h, Option.map_some]

/-! ## Exactness and depth -/

theorem Json.isExact_nat {n max : Nat} (h : n ≤ max) (hmax : max ≤ maxNatural) : isExact (.nat n) = true :=
  decide_eq_true (Nat.le_trans h hmax)

theorem Json.itemsExact_map {α : Type} {g : α → Json} {xs : List α} (h : ∀ x ∈ xs, isExact (g x) = true) :
    itemsExact (xs.map g) = true := by
  induction xs with
  | nil => rfl
  | cons x xs ih =>
    obtain ⟨hx, hxs⟩ := List.forall_mem_cons.mp h
    rw [List.map_cons, itemsExact, hx, ih hxs, Bool.and_true]

theorem Json.isExact_ofTexts (xs : List String) : isExact (.ofTexts xs) = true :=
  itemsExact_map fun _ _ => rfl

theorem Json.depthOfItems_map_le {α : Type} {g : α → Json} {xs : List α} {n : Nat}
    (h : ∀ x ∈ xs, depth (g x) ≤ n) : depthOfItems (xs.map g) ≤ n := by
  induction xs with
  | nil => exact Nat.zero_le n
  | cons x xs ih =>
    obtain ⟨hx, hxs⟩ := List.forall_mem_cons.mp h
    exact Nat.max_le.mpr ⟨hx, ih hxs⟩

theorem Json.depth_ofTexts (xs : List String) : depth (.ofTexts xs) = 1 := by
  have h : depthOfItems (xs.map Json.string) ≤ 0 := depthOfItems_map_le fun _ _ => Nat.le_refl 0
  rw [ofTexts, depth]
  omega

theorem Payload.isExact_toJson {p : Payload} (h : p.Fits) : isExact p.toJson = true := by
  have h8 : max8 ≤ maxNatural := by decide
  have h16 : max16 ≤ maxNatural := by decide
  have h64 : max64 ≤ maxNatural := by decide
  cases p with
  | heartbeat p => rfl
  | firewallDrop d =>
    have hout : isExact ((d.ifOut.map Json.string).getD .null) = true := by cases d.ifOut <;> rfl
    simp [toJson, FirewallDrop.toJson, isExact, membersExact, hout, isExact_nat h.nflogGroup h16,
      isExact_nat h.srcPort h16, isExact_nat h.dstPort h16, isExact_nat h.l4proto h8]
  | flow f =>
    have hcontext : membersExact (f.dnsContext.map fun c => ("dns_context", c.toJson)).toList = true := by
      cases f.dnsContext with
      | none => rfl
      | some c => simp [DnsContext.toJson, isExact, membersExact, isExact_ofTexts]
    simp [toJson, Flow.toJson, isExact, membersExact, ofInstant, hcontext, isExact_nat h.srcPort h16,
      isExact_nat h.dstPort h16, isExact_nat h.l4proto h8, isExact_nat h.bytesOrig h64,
      isExact_nat h.bytesReply h64, isExact_nat h.packetsOrig h64, isExact_nat h.packetsReply h64]
  | dnsBucket b =>
    simp [toJson, DnsBucket.toJson, isExact, membersExact, isExact_nat h.count h64, isExact_nat h.nxdomain h64,
      ofInstant]
  | hostIdentity i =>
    simp [toJson, HostIdentity.toJson, isExact, membersExact, isExact_ofTexts, ofInstant]

theorem Payload.depth_toJson_le (p : Payload) : depth p.toJson ≤ 3 := by
  cases p with
  | heartbeat p => simp [toJson, Heartbeat.toJson, depth, depthOfMembers]
  | firewallDrop d =>
    have hout : depth ((d.ifOut.map Json.string).getD .null) = 0 := by cases d.ifOut <;> rfl
    simp [toJson, FirewallDrop.toJson, depth, depthOfMembers, hout, nat]
  | flow f =>
    cases hc : f.dnsContext <;>
    simp [toJson, Flow.toJson, DnsContext.toJson, depth, depthOfMembers, ofInstant, nat, hc, depth_ofTexts]
  | dnsBucket b => simp [toJson, DnsBucket.toJson, depth, depthOfMembers, ofInstant, nat]
  | hostIdentity i => simp [toJson, HostIdentity.toJson, depth, depthOfMembers, ofInstant, depth_ofTexts]

/-! ## Events and batches -/

namespace Event

theorem isExact_toJson {e : Event} (h : e.Fits) : isExact e.toJson = true := by
  simp [toJson, isExact, membersExact, ofInstant, Payload.isExact_toJson h.payload]

theorem depth_toJson_le (e : Event) : depth e.toJson ≤ 4 := by
  have hpayload := e.payload.depth_toJson_le
  simp only [toJson, depth, depthOfMembers, ofInstant]
  omega

/-- **An event is read from its written form**, wherever that stands in a batch. -/
theorem ofJson?_toJson {e : Event} (h : e.Fits) : ofJson? 2 e.toJson = some e := by
  have hreadable := isReadable_of_isExact _ (isExact_toJson h)
  have hdepth : 2 + depth e.toJson ≤ maxDepth := Nat.le_trans (Nat.add_le_add_left e.depth_toJson_le 2) (by decide)
  show (if e.toJson.isReadable = true ∧ 2 + e.toJson.depth ≤ maxDepth then _ else none) = some e
  rw [if_pos ⟨hreadable, hdepth⟩, toJson, record?_object (by exact .refl _) (by decide)]
  simp [lookup_cons_of_ne, Payload.kind?, instant?_ofInstant h.time, Payload.ofJson?_toJson h.payload]

end Event

namespace Batch

theorem isExact_toJson {b : Batch} (h : b.Fits) : isExact b.toJson = true := by
  have hevents := itemsExact_map fun e he => Event.isExact_toJson (h.events e he)
  simp [toJson, isExact, membersExact, ofInstant, hevents]

/-- **A batch is read from its written form.** -/
theorem ofJson?_toJson {b : Batch} (h : b.Fits) : ofJson? b.toJson = some b := by
  have hevents : (b.events.map Event.toJson).mapM (Event.ofJson? 2) = some b.events :=
    mapM_map_eq_some fun e he => Event.ofJson?_toJson (h.events e he)
  rw [toJson, ofJson?, record?_object (by exact .refl _) (by decide)]
  simp [lookup_cons_of_ne, instant?_ofInstant h.sentAt, hevents]

/-- A batch is read from its bytes. -/
theorem ofPayload?_toPayload {b : Batch} (h : b.Fits) : ofPayload? b.toPayload = some b := by
  rw [ofPayload?, toPayload, Text.decodeUtf8?_encodeUtf8]
  show (parse? b.toJson.render).bind ofJson? = some b
  rw [parse?_render (isExact_toJson h), Option.bind_some, ofJson?_toJson h]

/-- **Batches survive as bytes.** -/
theorem survives {b : Batch} (h : b.Fits) :
    ofPayload? b.toPayload = some b ∧ ∀ b' : Batch, b'.Fits → b'.toPayload = b.toPayload → b' = b := by
  refine ⟨ofPayload?_toPayload h, fun b' h' hsame => ?_⟩
  have hread := ofPayload?_toPayload h'
  rw [hsame, ofPayload?_toPayload h] at hread
  exact (Option.some.inj hread).symm

/-- A batch with a leap second at the end of the year 9999, an event in the year before 0 with a flow of the greatest
numbers, and one in the year 10000 with a dropped packet that goes nowhere. -/
theorem survives_extremes :
    let flow : Flow := { event := "\x22\\", state := "\n", flags := "", srcIp := "é", dstIp := "\u2028"
                         srcPort := 65535, dstPort := 0, l4proto := 255, dir := "\u0001"
                         bytesOrig := 18446744073709551615, bytesReply := 0, packetsOrig := 1, packetsReply := 2
                         firstSeen := ⟨-62167219201, 5⟩, lastSeen := ⟨0, 120000000⟩
                         dnsContext := some ⟨["h"], "never"⟩ }
    let dropped : FirewallDrop := { hook := "input", ruleTag := "", nflogGroup := 65535, ifIn := "eth0", ifOut := none
                                    srcIp := "", dstIp := "", srcPort := 1, dstPort := 2, l4proto := 6, tcpSyn := true }
    let b : Batch := ⟨"r", ⟨253402300799, 1999999999⟩,
      [⟨⟨-62167219201, 1000⟩, .flow flow⟩, ⟨⟨253402300800, 0⟩, .firewallDrop dropped⟩]⟩
    b.Fits ∧ ofPayload? b.toPayload = some b ∧
      ∀ b' : Batch, b'.Fits → b'.toPayload = b.toPayload → b' = b := by
  intro flow dropped b
  have hflow : flow.Fits := by constructor <;> decide
  have hdropped : dropped.Fits := by constructor <;> decide
  have hb : b.Fits := by
    refine ⟨by decide, List.forall_mem_cons.mpr ⟨⟨by decide, hflow⟩, ?_⟩⟩
    exact List.forall_mem_singleton.mpr ⟨by decide, hdropped⟩
  exact ⟨hb, survives hb⟩

end Batch

end RouterTelemetry
