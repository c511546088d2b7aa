import Mingfwq.Lib.Region
import Mingfwq.Uri.Grammar

/-!
# The regions of the table

The states in which each component of a URI is read, and what is computed of their edges.
-/

namespace Mingfwq.Uri

open Lib

/-- The places where a query or a fragment can begin, and which actions run there, also if nothing follows. -/
structure Ending (q : Nat) (acts : List Action) : Prop where
  final : uri_parser_first_final ≤ q
  eof : eofActions q = acts
  query : goto uri_parser_next q 63 = some (acts, 456)
  fragment : goto uri_parser_next q 35 = some (acts, 453)

section

-- the rows stand far behind in the table
set_option maxRecDepth 8192

/-! ## Fragments -/

theorem fragment_words : Words uri_parser_next query_char [(454, 454)] 1 2 := uri_parser_table.words_of (by rfl)

theorem fragment_only : OnlyWords uri_parser_table query_char [(454, 454)] 1 2 :=
  uri_parser_table.onlyWords_of (by rfl)

theorem fragment_marks : uri_parser_table.marks 453 [.marku] query_char [(454, 454)] 1 = true := by rfl

theorem fragment_onlyMarks : uri_parser_table.onlyMarks 453 query_char [(454, 454)] 1 2 = true := by rfl

theorem fragment_start : uri_parser_table.region [(453, 453)] [.marku] (States.withPercent [(454, 454)] 1 2) [] =
    true := by
  rfl

theorem fragment_region : uri_parser_table.region (States.withPercent [(454, 454)] 1 2) []
    (States.withPercent [(454, 454)] 1 2) [] = true := by
  rfl

/-! ## Queries -/

theorem query_words : Words uri_parser_next query_char [(457, 457)] 7 8 := uri_parser_table.words_of (by rfl)

theorem query_only : OnlyWords uri_parser_table query_char [(457, 457)] 7 8 := uri_parser_table.onlyWords_of (by rfl)

theorem query_marks : uri_parser_table.marks 456 [.marku] query_char [(457, 457)] 7 = true := by rfl

theorem query_onlyMarks : uri_parser_table.onlyMarks 456 query_char [(457, 457)] 7 8 = true := by rfl

theorem query_start : uri_parser_table.region [(456, 456)] [.marku] (States.withPercent [(457, 457)] 7 8)
    [⟨35, 35, [.marku, .save_query], 453⟩] = true := by
  rfl

theorem query_region : uri_parser_table.region (States.withPercent [(457, 457)] 7 8) []
    (States.withPercent [(457, 457)] 7 8) [⟨35, 35, [.save_query], 453⟩] = true := by
  rfl

/-! ## Paths -/

theorem path_words : Words uri_parser_next path_char [(513, 513)] 243 244 := uri_parser_table.words_of (by rfl)

theorem path_only : OnlyWords uri_parser_table path_char [(513, 513)] 243 244 := uri_parser_table.onlyWords_of (by rfl)

theorem path_region : uri_parser_table.region (States.withPercent [(513, 513)] 243 244) []
    (States.withPercent [(513, 513)] 243 244)
    [⟨35, 35, [.save_path], 453⟩, ⟨63, 63, [.save_path], 456⟩] = true := by
  rfl

theorem path_ending : Ending 513 [.save_path] := ⟨by decide, by rfl, by rfl, by rfl⟩

/-! ## Ports -/

theorem port_digit : uri_parser_table.leads 515 .digit [] 515 = true := by rfl

theorem port_marks : uri_parser_table.leads 514 .digit [.markh] 515 = true := by rfl

theorem port_ending : Ending 515 [.save_port, .markh, .save_path] := ⟨by decide, by rfl, by rfl, by rfl⟩

theorem port_slash : goto uri_parser_next 515 47 = some ([.save_port, .markh], 513) := by rfl

theorem port_start : uri_parser_table.region [(514, 514)] [.markh] [(515, 515)]
    [⟨35, 35, [.markh, .save_port, .save_path], 453⟩, ⟨47, 47, [.markh, .save_port], 513⟩,
      ⟨63, 63, [.markh, .save_port, .save_path], 456⟩] = true := by
  rfl

theorem port_region : uri_parser_table.region [(515, 515)] [] [(515, 515)]
    [⟨35, 35, [.save_port, .markh, .save_path], 453⟩, ⟨47, 47, [.save_port, .markh], 513⟩,
      ⟨63, 63, [.save_port, .markh, .save_path], 456⟩] = true := by
  rfl

theorem port_bytes : (uri_parser_table.forEdges [(514, 515)] fun e => e.target != 515 || e.inClass .digit) = true := by
  rfl

/-! ## Hosts -/

/-- The states of a `reg_name` between its characters. -/
def regStates : States := [(523, 541)]

/-- The states in which a host can end. -/
def hostEnds : States := [(512, 512), (516, 519)] ++ regStates

/-- The states between the brackets of an `IP_literal`. -/
def literalStates : States := [(260, 450)]

/-- The states of an `IPv4address` that begins with the byte 2, and those behind a percent sign. -/
def innerStates : States := [(229, 242), (245, 252), (258, 259)]

/-- The states behind the first byte of a host. -/
def hostStates : States := hostEnds ++ innerStates ++ literalStates

theorem host_region : uri_parser_table.region hostStates [] hostStates
    [⟨35, 35, [.save_host, .markh, .save_path], 453⟩, ⟨47, 47, [.save_host, .markh], 513⟩,
      ⟨58, 58, [.save_host], 514⟩, ⟨63, 63, [.save_host, .markh, .save_path], 456⟩] = true := by
  rfl

theorem host_start : uri_parser_table.region [(522, 522)] [.markh] hostStates
    [⟨35, 35, [.markh, .save_host, .save_path], 453⟩, ⟨47, 47, [.markh, .save_host], 513⟩,
      ⟨58, 58, [.markh, .save_host], 514⟩, ⟨63, 63, [.markh, .save_host, .save_path], 456⟩] = true := by
  rfl

theorem host_inner : uri_parser_table.forEdges (innerStates ++ literalStates) (·.acts.isEmpty) = true := by rfl

theorem host_ends : (hostEnds.toList.all fun s => uri_parser_first_final ≤ s &&
    eofActions s == [.save_host, .markh, .save_path] &&
    uri_parser_table.leads s [(63, 63)] [.save_host, .markh, .save_path] 456 &&
    uri_parser_table.leads s [(35, 35)] [.save_host, .markh, .save_path] 453 &&
    uri_parser_table.leads s [(47, 47)] [.save_host, .markh] 513 &&
    uri_parser_table.leads s [(58, 58)] [.save_host] 514) = true := by
  rfl

theorem reg_words : Words uri_parser_next reg_char regStates 258 259 := uri_parser_table.words_of (by rfl)

theorem reg_marks : uri_parser_table.marks 522 [.markh] reg_char regStates 258 = true := by rfl

theorem no_host_ending : Ending 522 [.markh, .save_host, .save_path] := ⟨by decide, by rfl, by rfl, by rfl⟩

theorem no_host_slash : goto uri_parser_next 522 47 = some ([.markh, .save_host], 513) := by rfl

theorem no_host_colon : goto uri_parser_next 522 58 = some ([.markh, .save_host], 514) := by rfl

/-! ## The front of an authority

What comes first can be a host or a userinfo; up to a colon both are read in the same states. -/

/-- The states between the characters up to the first colon. -/
def authStates : States := [(520, 520), (543, 560)]

theorem auth_words : Words uri_parser_next reg_char authStates 253 254 := uri_parser_table.words_of (by rfl)

theorem auth_only : OnlyWords uri_parser_table reg_char authStates 253 254 := uri_parser_table.onlyWords_of (by rfl)

theorem auth_marks : uri_parser_table.marks 511 [.markh] reg_char authStates 253 = true := by rfl

theorem auth_onlyMarks : uri_parser_table.onlyMarks 511 reg_char authStates 253 254 = true := by rfl

theorem auth_start : uri_parser_table.region [(511, 511)] [.markh] (authStates.withPercent 253 254 ++ hostStates)
    [⟨35, 35, [.markh, .save_host, .save_path], 453⟩, ⟨47, 47, [.markh, .save_host], 513⟩,
      ⟨58, 58, [.markh, .save_host], 521⟩, ⟨63, 63, [.markh, .save_host, .save_path], 456⟩,
      ⟨64, 64, [.markh, .save_userinfo], 522⟩] = true := by
  rfl

theorem auth_region : uri_parser_table.region (authStates.withPercent 253 254) [] (authStates.withPercent 253 254)
    [⟨2, 2, [], 233⟩, ⟨2, 2, [], 237⟩, ⟨2, 2, [], 241⟩, ⟨35, 35, [.save_host, .markh, .save_path], 453⟩,
      ⟨47, 47, [.save_host, .markh], 513⟩, ⟨58, 58, [.save_host], 521⟩,
      ⟨63, 63, [.save_host, .markh, .save_path], 456⟩, ⟨64, 64, [.save_userinfo], 522⟩] = true := by
  rfl

theorem auth_ends : (authStates.toList.all fun s => uri_parser_table.leads s [(58, 58)] [.save_host] 521 &&
    uri_parser_table.leads s [(64, 64)] [.save_userinfo] 522) = true := by
  rfl

theorem no_user_colon : goto uri_parser_next 511 58 = some ([.markh, .save_host], 521) := by rfl

theorem no_user_at : goto uri_parser_next 511 64 = some ([.markh, .save_userinfo], 522) := by rfl

/-- The states between the characters behind the first colon. -/
def colonStates : States := [(255, 255), (542, 542)]

theorem colon_words : Words uri_parser_next userinfo_char colonStates 256 257 := uri_parser_table.words_of (by rfl)

theorem colon_only : OnlyWords uri_parser_table userinfo_char colonStates 256 257 :=
  uri_parser_table.onlyWords_of (by rfl)

theorem colon_onlyMarks : uri_parser_table.onlyMarks 521 userinfo_char colonStates 256 257 = true := by rfl

theorem colon_start : uri_parser_table.region [(521, 521)] [] [(255, 256)]
    [⟨35, 35, [.markh, .save_port, .save_path], 453⟩, ⟨47, 47, [.markh, .save_port], 513⟩, ⟨48, 57, [.markh], 542⟩,
      ⟨63, 63, [.markh, .save_port, .save_path], 456⟩, ⟨64, 64, [.save_userinfo], 522⟩] = true := by
  rfl

theorem colon_region : uri_parser_table.region (colonStates.withPercent 256 257) [] (colonStates.withPercent 256 257)
    [⟨35, 35, [.save_port, .markh, .save_path], 453⟩, ⟨47, 47, [.save_port, .markh], 513⟩,
      ⟨63, 63, [.save_port, .markh, .save_path], 456⟩, ⟨64, 64, [.save_userinfo], 522⟩] = true := by
  rfl

theorem colon_digit : uri_parser_table.leads 521 .digit [.markh] 542 = true := by rfl

theorem colon_plain : uri_parser_table.leads 521 userinfo_rest [] 255 = true := by rfl

theorem colon_percent : goto uri_parser_next 521 37 = some ([], 256) := by rfl

theorem colon_at : goto uri_parser_next 521 64 = some ([.save_userinfo], 522) := by rfl

theorem colon_ends : (colonStates.toList.all fun s =>
    uri_parser_table.leads s [(64, 64)] [.save_userinfo] 522) = true := by
  rfl

theorem at_bytes : (uri_parser_table.forEdges
    (authStates.withPercent 253 254 ++ colonStates.withPercent 256 257) fun e =>
    !e.acts.isEmpty || e.hi < 64 || 64 < e.lo) = true := by
  rfl

/-- The states in which no userinfo can be under way. -/
def hostOnly : States := hostStates ++ [(514, 515)]

theorem hostOnly_edges : (uri_parser_table.forEdges hostOnly fun e =>
    (e.hi < 64 || 64 < e.lo) && (hostOnly.has e.target || e.inClass authority_end)) = true := by
  rfl

/-! ## Without a userinfo -/

/-- The states in which it is open whether there is a userinfo. -/
def openStates : States := [(511, 511), (520, 521), (542, 560), (253, 254)]

/-- The state in which the same is read behind a userinfo. -/
def twin (s : Nat) : Nat :=
  if s = 511 then 522
  else if s = 520 then 523
  else if s = 521 then 514
  else if s = 542 then 515
  else if s = 253 then 258
  else if s = 254 then 259
  else s - 19

/-- The states in which there is a userinfo. -/
def userStates : States := [(255, 257)]

theorem twin_edges : (openStates.toList.all fun s => (uri_parser_table.edges s).all fun e =>
    e.lo == 64 && e.hi == 64 ||
      covers (uri_parser_table.edges (twin s)) [(e.lo, e.hi)] (fun f =>
        f.acts == e.acts && f.target == if openStates.has e.target then twin e.target else e.target) ||
      e.acts.isEmpty && userStates.has e.target && misses (uri_parser_table.edges (twin s)) [(e.lo, e.hi)]) = true := by
  rfl

theorem twin_none : (openStates.toList.all fun s => (uri_parser_table.edges (twin s)).all fun f =>
    covers (uri_parser_table.edges s) [(f.lo, f.hi)] fun _ => true) = true := by
  rfl

theorem twin_end : (openStates.toList.all fun s => eofActions s == eofActions (twin s) &&
    (uri_parser_first_final ≤ s) == (uri_parser_first_final ≤ twin s)) = true := by
  rfl

theorem open_bytes : (uri_parser_table.forEdges openStates fun e =>
    !(openStates ++ userStates).has e.target || misses [e] authority_end) = true := by
  rfl

theorem user_edges : (uri_parser_table.forEdges userStates fun e =>
    e.lo == 64 && e.hi == 64 || e.acts.isEmpty && userStates.has e.target) = true := by
  rfl

theorem user_ends : ([255, 256, 257].all fun s => misses (uri_parser_table.edges s) authority_end) = true := by rfl

/-! ## The front of a reference -/

theorem scheme_first : uri_parser_table.leads 451 .alpha [.marku] 508 = true := by rfl

theorem scheme_next : uri_parser_table.leads 508 scheme_char [] 508 = true := by rfl

theorem scheme_colon : goto uri_parser_next 508 58 = some ([.save_scheme], 509) := by rfl

theorem no_scheme_colon : goto uri_parser_next 451 58 = none := by rfl

theorem slash_first : goto uri_parser_next 509 47 = some ([], 510) := by rfl

theorem slash_second : goto uri_parser_next 510 47 = some ([], 511) := by rfl

/-- The states behind the place where a scheme can be. -/
def otherStates : States := [(0, 450), (452, 507), (509, 560)]

/-- The states in which the first segment of a relative path is read. -/
def segmentStates : States := [(3, 4), (452, 452)]

theorem start_edges : ([451, 508].all fun s => (uri_parser_table.edges s).all fun e =>
    e.target == 508 && e.acts == (if s = 451 then [.marku] else []) &&
        e.inClass (if s = 451 then .alpha else scheme_char) ||
      e == ⟨58, 58, [.save_scheme], 509⟩ ||
      e.acts.isEmpty && misses [e] [(58, 58)] &&
        otherStates.has e.target && (segmentStates.has e.target || e.inClass authority_end)) = true := by
  rfl

theorem segment_edges : (uri_parser_table.forEdges segmentStates fun e =>
    misses [e] [(58, 58)] && (segmentStates.has e.target || e.inClass authority_end)) = true := by
  rfl

theorem scheme_edges : (uri_parser_table.forEdges otherStates fun e =>
    !e.acts.contains .save_scheme && otherStates.has e.target) = true := by
  rfl

theorem scheme_eof : (uri_parser_eof.all fun (_, acts) => !acts.contains .save_scheme) = true := by rfl

theorem rest_only : OnlyWords uri_parser_table path_char [(455, 455)] 5 6 := uri_parser_table.onlyWords_of (by rfl)

theorem rest_onlyMarks : uri_parser_table.onlyMarks 509 path_char [(455, 455)] 5 6 = true ∧
    uri_parser_table.onlyMarks 510 path_char [(455, 455)] 5 6 = true := by
  exact ⟨by rfl, by rfl⟩

theorem rest_region : uri_parser_table.region (States.withPercent [(455, 455)] 5 6) []
    (States.withPercent [(455, 455)] 5 6) [⟨35, 35, [], 453⟩, ⟨63, 63, [], 456⟩] = true := by
  rfl

theorem rest_start : uri_parser_table.region [(509, 510)] [] (States.withPercent [(455, 455)] 5 6)
    [⟨35, 35, [], 453⟩, ⟨47, 47, [], 510⟩, ⟨47, 47, [], 511⟩, ⟨63, 63, [], 456⟩] = true := by
  rfl

theorem rest_ending : Ending 455 [] ∧ Ending 509 [] ∧ Ending 510 [] :=
  ⟨⟨by decide, by rfl, by rfl, by rfl⟩, ⟨by decide, by rfl, by rfl, by rfl⟩, ⟨by decide, by rfl, by rfl, by rfl⟩⟩

/-! ## The bytes of a host -/

theorem host_bytes : (uri_parser_table.forEdges hostStates fun e =>
    !e.acts.isEmpty || misses [e] ((64, 64) :: authority_end)) = true := by
  rfl

theorem host_first_bytes : (uri_parser_table.forEdges [(522, 522)] fun e =>
    !hostStates.has e.target || misses [e] ((64, 64) :: authority_end)) = true := by
  rfl

theorem literal_edges : (uri_parser_table.forEdges literalStates fun e =>
    literalStates.has e.target || e.target == 512 && e.lo == 93 && e.hi == 93) = true := by
  rfl

theorem closed_edges : (uri_parser_table.forEdges [(512, 512)] fun e => !e.acts.isEmpty) = true := by rfl

theorem name_edges : (uri_parser_table.forEdges (hostEnds ++ innerStates) fun e =>
    !e.acts.isEmpty || (hostEnds ++ innerStates).has e.target && misses [e] [(58, 58)]) = true := by
  rfl

theorem host_first_edges : (uri_parser_table.forEdges [(522, 522)] fun e =>
    !hostStates.has e.target || literalStates.has e.target ||
      (hostEnds ++ innerStates).has e.target && misses [e] [(58, 58)]) = true := by
  rfl

end

end Mingfwq.Uri
