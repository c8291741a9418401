import ChatWarden.Proofs.Chat.Message
import ChatWarden.Proofs.Lookup.Answered
import ChatWarden.Proofs.Url.Reading

/-!
# What a place can do to its address

The place that a viewer types is put into the path of an address between other text, and a client
cuts the whole into its parts again. The host is always that of the service. The rest of the address
asks for the place just if the place has no mark that ends a path and no dot segments. This is so
for every client that keeps the laws of `Url.Reading.IsLawful`, whichever escapes it writes.

Results:
* `Weather.fetch_fetched`: one address is asked for.
* `Weather.asksFor_iff`: the places for which the address asks for the place and nothing else.
* `weather_asks_iff`: what a look-up asks for when it is given a place.
-/

namespace ChatWarden

/-- The request that is made over HTTP, if it is one. -/
def Request.fetched? : Request → Option Http.Request
  | .fetch request => some request
  | _ => none

/-- The requests that were made over HTTP, in their order. -/
def Exchange.fetched (path : List Exchange) : List Http.Request :=
  path.filterMap (·.request.fetched?)

open Exchange (fetched)

theorem Exchange.fetched_append (front back : List Exchange) :
    fetched (front ++ back) = fetched front ++ fetched back := List.filterMap_append

namespace Lookup

variable {path : List Exchange}

/-! ## Requests that are made -/

theorem Client.prepare_fetched {client : Client} {value : Unit}
    (h : client.prepare.Ends path value) : fetched path = [] := by
  cases client with
  | shared =>
    obtain ⟨rfl, -⟩ := Work.ends_pure.mp h
    rfl
  | own timeout =>
    obtain ⟨answer, rest, rfl, hrest⟩ := Work.ends_ask.mp h
    obtain ⟨rfl, -⟩ := Work.ends_done.mp hrest
    rfl

/-- A client makes its request once. -/
theorem Client.get_fetched {client : Client} {request : Http.Request}
    {answer : Except Fault Http.Response} (h : (client.get request).Ends path answer) :
    fetched path = [request] := by
  obtain ⟨front, back, _, rfl, hfront, hback⟩ := (Work.ends_bind client.prepare _ answer).mp h
  obtain ⟨got, rest, rfl, hrest⟩ := Work.ends_ask.mp hback
  obtain ⟨rfl, -⟩ := Work.ends_pure.mp hrest
  rw [Exchange.fetched_append, Client.prepare_fetched hfront]
  rfl

theorem failed_fetched {α : Type} {service : Service} {origin : Log.Origin} {noun asked : String}
    {fault : Fault} {outcome : Except Failure α}
    (h : (failed service origin noun asked fault : Job α).Ends path outcome) :
    fetched path = [] := by
  obtain ⟨rest, rfl, hrest⟩ := Job.ends_note_bind.mp h
  obtain ⟨rfl, -⟩ := Job.ends_throw.mp hrest
  rfl

namespace Weather

open Url (IsDots Reading Target secureAddress)

variable {reading : Reading} {client : Client} {location : String} {place : List Char}
  {target : Target}

/-- A look-up asks for the address of its place and for nothing else. -/
theorem fetch_fetched {outcome : Except Failure Reply}
    (h : (fetch client location).Ends path outcome) :
    fetched path = [{ address := address location }] := by
  rcases Job.ends_bind.mp h with ⟨front, back, answer, rfl, hfront, hback⟩ | ⟨failure, hfailed, -⟩
  · obtain ⟨_, hget, -⟩ := Job.ends_lift.mp hfront
    have hquiet : fetched back = [] := by
      cases answer with
      | ok response =>
        dsimp only at hback
        cases htext : response.text with
        | ok text =>
          rw [htext] at hback
          obtain ⟨rfl, -⟩ := Job.ends_pure.mp hback
          rfl
        | error fault =>
          rw [htext] at hback
          obtain ⟨rfl, -⟩ := Job.ends_throw.mp hback
          rfl
      | error fault =>
        rcases Job.ends_ite.mp hback with ⟨-, hfailed⟩ | ⟨-, hthrown⟩
        · exact failed_fetched hfailed
        · obtain ⟨rfl, -⟩ := Job.ends_throw.mp hthrown
          rfl
    rw [Exchange.fetched_append, hquiet, List.append_nil, Client.get_fetched hget]
  · obtain ⟨_, -, hfailure⟩ := Job.ends_lift.mp hfailed
    cases hfailure

/-! ## The address of a place -/

/-- The host of the service. -/
def host : List Char := "wttr.in".toList

/-- The query that asks for the line. -/
def lineQuery : List Char := ("format=" ++ lineFormat ++ "&m").toList

/-- What stands behind the host in the address of a place. -/
def behindHost (place : List Char) : List Char := '/' :: (place ++ '?' :: lineQuery)

theorem address_toList (location : String) : (Weather.address location).toList =
    secureAddress host (behindHost (Weather.place location)) := by
  have hparts (name : List Char) (format rest : String) :
      (service ++ "/" ++ .ofList name ++ "?format=" ++ format ++ rest).toList =
        service.toList ++ '/' :: (name ++ '?' :: ("format=" ++ format ++ rest).toList) := by
    simp
  have hservice : service.toList = "https://".toList ++ host := by decide
  unfold secureAddress
  rw [← hservice]
  exact hparts (Weather.place location) lineFormat "&m"

theorem host_isPlain : Url.IsPlainHost host := by
  have hplain : host.all (fun c => c.isLower || c == '.') = true := by decide
  exact ⟨by decide, by simpa using hplain⟩

/-- Only blanks are replaced in a place. -/
theorem mem_place {c : Char} (hplus : c ≠ '+') (h : c ∈ Weather.place location) :
    c ∈ location.toList := by
  obtain ⟨d, hd, hput⟩ := List.mem_map.mp h
  split at hput
  · exact absurd hput.symm hplus
  · exact Text.strip_subset _ (hput ▸ hd)

/-- A place without control characters stands in an address without them. -/
theorem behindHost_not_isControl (h : ∀ c ∈ location.toList, Url.isControl c = false) :
    ∀ c ∈ Weather.place location ++ '?' :: lineQuery, Url.isControl c = false := by
  have hquery : ∀ c ∈ '?' :: lineQuery, Url.isControl c = false := by
    simpa using show ('?' :: lineQuery).all (!Url.isControl ·) = true by decide
  rw [List.forall_mem_append]
  refine ⟨fun c hc => ?_, hquery⟩
  by_cases hplus : c = '+'
  · rw [hplus]
    decide
  · exact h c (mem_place hplus hc)

/-- Around the place the address has no hash sign. -/
theorem hash_mem_iff : '#' ∈ behindHost place ↔ '#' ∈ place := by
  have hquery : '#' ∉ '?' :: lineQuery := by decide
  rw [behindHost, List.mem_cons, or_iff_right (by decide), List.mem_append, or_iff_left hquery]

/-! ## What is asked for -/

/-- What a client requests for a place, if it takes the address. -/
def target? (reading : Reading) (location : String) : Option Target :=
  reading.target? (Weather.address location).toList

/-- A request asks the service for the line about a place, and for nothing else. -/
structure AsksFor (reading : Reading) (place : List Char) (target : Target) : Prop where
  host : target.host = host
  path : Url.decode target.path = '/' :: place
  query : target.query = some (reading.escapedQuery lineQuery)
  fragment : target.fragment = none

/-- Places that leave the address as it is around them. -/
structure IsTame (place : List Char) : Prop where
  unmarked : '?' ∉ place
  unhashed : '#' ∉ place
  plain : ∀ segment ∈ Text.splitAt '/' place, ¬IsDots segment

/-- A client takes addresses that are not too long. -/
theorem target?_isSome (hreading : reading.IsLawful)
    (hcontrol : ∀ c ∈ location.toList, Url.isControl c = false)
    (hlen : (Weather.address location).length ≤ reading.limit) :
    ∃ target, target? reading location = some target := by
  rw [← String.length_toList, address_toList] at hlen
  rw [target?, address_toList]
  exact Option.isSome_iff_exists.mp
    (hreading.takes host_isPlain (behindHost_not_isControl hcontrol) hlen)

theorem target?_eq_none (hreading : reading.IsLawful)
    (hlen : reading.limit < (Weather.address location).length) : target? reading location = none :=
  hreading.refuses (by rwa [String.length_toList])

/-- What is requested is what stands behind the host, cut into its parts. -/
theorem target_eq (hreading : reading.IsLawful) (htarget : target? reading location = some target) :
    target = reading.target host (behindHost (Weather.place location)) := by
  rw [target?, address_toList] at htarget
  exact hreading.cuts host_isPlain htarget

/-- The path to a place stays as it is just if the place has no dot segments. -/
theorem resolved_slash_iff (hreading : reading.IsLawful) :
    reading.resolved ('/' :: place) = '/' :: place ↔
      ∀ segment ∈ Text.splitAt '/' place, ¬IsDots segment := by
  have hsegments : (∀ segment ∈ Text.splitAt '/' ('/' :: place), ¬IsDots segment) ↔
      ∀ segment ∈ Text.splitAt '/' place, ¬IsDots segment := by
    rw [Text.splitAt_mark, List.forall_mem_cons]
    exact and_iff_right (by decide)
  rw [← hsegments]
  constructor
  · intro h
    rw [← h]
    exact hreading.plain_of_resolved
  · exact hreading.resolved_of_plain

/-- A path with its escapes read is the path that was escaped. -/
theorem decode_path (hreading : reading.IsLawful) {front : List Char} (hpercent : '%' ∉ front) :
    Url.decode (reading.escapedPath (reading.resolved ('/' :: front))) =
      reading.resolved ('/' :: front) := by
  refine hreading.decode_escapedPath fun hmem => ?_
  rcases hreading.mem_of_resolved hmem with hslash | hfront
  · exact absurd hslash (by decide)
  · exact hpercent ((List.mem_cons.mp hfront).resolve_left (by decide))

/-- A question mark ends the path within the place, so the path cannot hold all of it. -/
theorem not_asksFor_of_mark (hreading : reading.IsLawful) (hpercent : '%' ∉ place)
    (hhash : '#' ∉ place) (hmark : '?' ∈ place) :
    ¬AsksFor reading place (reading.target host (behindHost place)) := by
  intro h
  obtain ⟨front, back, rfl, hfront, -⟩ := Text.exists_cutAt? hmark
  have hunhashed : '#' ∉ ('/' :: front) ++ '?' :: (back ++ '?' :: lineQuery) := by
    simpa [behindHost] using mt hash_mem_iff.mp hhash
  have hfirst : '?' ∉ '/' :: front := List.not_mem_cons_of_ne_of_not_mem (by decide) hfront
  have hrest : behindHost (front ++ '?' :: back) =
      ('/' :: front) ++ '?' :: (back ++ '?' :: lineQuery) := by
    simp [behindHost]
  have hwhole := h.path
  rw [hrest, Url.Spelling.target_of_mark hunhashed hfirst,
    decode_path hreading fun hmem => hpercent (List.mem_append_left _ hmem)] at hwhole
  have hmem : '?' ∈ reading.resolved ('/' :: front) := by
    rw [hwhole]
    exact List.mem_cons_of_mem _ hmark
  rcases hreading.mem_of_resolved hmem with hslash | hin
  · exact absurd hslash (by decide)
  · exact hfirst hin

/-- The request for a place asks for it and for nothing else just if the place is tame. -/
theorem asksFor_iff (hreading : reading.IsLawful) (hpercent : '%' ∉ place) :
    AsksFor reading place (reading.target host (behindHost place)) ↔ IsTame place := by
  by_cases hhash : '#' ∈ place
  · -- behind a hash sign the query goes into a fragment
    exact iff_of_false
      (fun h => Url.Spelling.fragment_ne_none (hash_mem_iff.mpr hhash) h.fragment)
      fun h => h.unhashed hhash
  by_cases hmark : '?' ∈ place
  · exact iff_of_false (not_asksFor_of_mark hreading hpercent hhash hmark)
      fun h => h.unmarked hmark
  have hunhashed : '#' ∉ ('/' :: place) ++ '?' :: lineQuery := mt hash_mem_iff.mp hhash
  have hfirst : '?' ∉ '/' :: place := List.not_mem_cons_of_ne_of_not_mem (by decide) hmark
  have htarget : reading.target host (behindHost place) = _ :=
    Url.Spelling.target_of_mark hunhashed hfirst
  have hdecoded : Url.decode (reading.target host (behindHost place)).path =
      reading.resolved ('/' :: place) := by
    rw [htarget]
    exact decode_path hreading hpercent
  constructor
  · intro h
    exact ⟨hmark, hhash, (resolved_slash_iff hreading).mp (hdecoded.symm.trans h.path)⟩
  · intro h
    have hpath := hdecoded.trans ((resolved_slash_iff hreading).mpr h.plain)
    rw [htarget] at hpath ⊢
    exact ⟨rfl, hpath, rfl, rfl⟩

end Weather

end Lookup

/-- **Places.** For a place without control characters and percent signs, one request is made, for
    the address of the place. Whatever lawful client reads the address, it takes it just if it is
    not too long. The request then goes to the host of the service. It asks for the place as it was
    typed, with the fixed query and no fragment, just if the place has no question mark, no hash
    sign and no dot segment. -/
theorem weather_asks_iff (reading : Url.Reading) (hreading : reading.IsLawful)
    (client : Lookup.Client) (location : String) (surroundings : Surroundings) (world : World)
    (hcontrol : ∀ c ∈ location.toList, Url.isControl c = false)
    (hpercent : '%' ∉ location.toList) :
    let run := (Lookup.Weather.fetch client location).attempt.record
      (World.answer surroundings) world
    Exchange.fetched run.1 = [{ address := Lookup.Weather.address location }] ∧
      ((Lookup.Weather.address location).length ≤ reading.limit →
        ∃ target : Url.Target,
          reading.target? (Lookup.Weather.address location).toList = some target ∧
          target.host = "wttr.in".toList ∧
          (Lookup.Weather.AsksFor reading (Lookup.Weather.place location) target ↔
            Lookup.Weather.IsTame (Lookup.Weather.place location))) ∧
      (reading.limit < (Lookup.Weather.address location).length →
        reading.target? (Lookup.Weather.address location).toList = none) := by
  intro run
  have hplace : '%' ∉ Lookup.Weather.place location := fun hmem =>
    hpercent (Lookup.Weather.mem_place (by decide) hmem)
  refine ⟨Lookup.Weather.fetch_fetched (World.ends_record surroundings
    (Lookup.Weather.fetch client location) world), fun hlen => ?_,
    Lookup.Weather.target?_eq_none hreading⟩
  obtain ⟨target, htarget⟩ := Lookup.Weather.target?_isSome hreading hcontrol hlen
  refine ⟨target, htarget, ?_⟩
  rw [Lookup.Weather.target_eq hreading htarget]
  exact ⟨rfl, Lookup.Weather.asksFor_iff hreading hplace⟩

/-- A name with a blank and a letter beyond ASCII is asked for. -/
theorem weather_asks_iff_in_sao_paulo :
    ∃ target : Url.Target,
      Rehearsal.reading.target? (Lookup.Weather.address " são paulo").toList = some target ∧
      Rehearsal.textOf target =
        "https://wttr.in/s%C3%A3o+paulo?format=%l:%20%c%20%F0%9F%8C%A1%EF%B8%8F%t\\n&m".toList ∧
      Lookup.Weather.AsksFor Rehearsal.reading "são+paulo".toList target := by
  have hcontrol : " são paulo".toList.all (!Url.isControl ·) = true := by decide
  have hplace : Lookup.Weather.place " são paulo" = "são+paulo".toList := by decide
  have hlen : (Lookup.Weather.address " são paulo").length ≤ Rehearsal.reading.limit := by
    decide +kernel
  obtain ⟨target, htarget, -, hiff⟩ :=
    (weather_asks_iff Rehearsal.reading Rehearsal.reading_isLawful .shared " são paulo" .calm
      { db := .fresh "bot.db" } (Url.not_isControl_of_all hcontrol) (by decide)).2.1 hlen
  have hcut := Lookup.Weather.target_eq Rehearsal.reading_isLawful htarget
  rw [hplace] at hcut hiff
  refine ⟨target, htarget, ?_, hiff.mpr ⟨by decide, by decide, by decide⟩⟩
  rw [hcut]
  decide +kernel

/-- A question mark ends the path within the place: another place is asked for, and the rest of the
    place stands in front of the query. -/
theorem question_mark_cuts_place :
    let run := (Lookup.Weather.fetch .shared "a?b").attempt.record
      (World.answer .calm) { db := .fresh "bot.db" }
    Exchange.fetched run.1 = [{ address := "https://wttr.in/a?b?format=%l: %c 🌡️%t\\n&m" }] ∧
      ∃ target : Url.Target,
        Rehearsal.reading.target? (Lookup.Weather.address "a?b").toList = some target ∧
        Rehearsal.textOf target =
          "https://wttr.in/a?b?format=%l:%20%c%20%F0%9F%8C%A1%EF%B8%8F%t\\n&m".toList ∧
        Url.decode target.path = "/a".toList ∧
        ¬Lookup.Weather.AsksFor Rehearsal.reading (Lookup.Weather.place "a?b") target := by
  intro run
  have hplace : Lookup.Weather.place "a?b" = "a?b".toList := by decide
  have hcontrol : "a?b".toList.all (!Url.isControl ·) = true := by decide
  have hlen : (Lookup.Weather.address "a?b").length ≤ Rehearsal.reading.limit := by decide +kernel
  have hfetched := Lookup.Weather.fetch_fetched
    (World.ends_record .calm (Lookup.Weather.fetch .shared "a?b") { db := .fresh "bot.db" })
  obtain ⟨target, htarget⟩ := Lookup.Weather.target?_isSome Rehearsal.reading_isLawful
    (Url.not_isControl_of_all hcontrol) hlen
  have hcut := Lookup.Weather.target_eq Rehearsal.reading_isLawful htarget
  rw [hplace] at hcut ⊢
  have hpath : Url.decode target.path = "/a".toList := by
    rw [hcut]
    decide +kernel
  refine ⟨hfetched.trans (by decide +kernel), target, htarget, ?_, hpath, fun h => ?_⟩
  · rw [hcut]
    decide +kernel
  · exact absurd (hpath.symm.trans h.path) (by decide)

end ChatWarden
