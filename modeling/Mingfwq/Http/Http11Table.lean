import Mingfwq.Lib.Automaton

/-!
# The automaton of http11_parser.rl.cpp

Row `cs` lists what `case cs` of the generated switch goes to: the bytes, the actions of the transition and the
state after it; a byte in no edge goes to `st0`. A `char` is signed, so the bytes from 128 on are the negative ones.
-/

namespace Mingfwq.Http

open Lib

/-- The actions of http11_parser.rl. -/
inductive HttpParser.Action where
  | mark
  | start_field
  | write_field
  | start_value
  | write_value
  | request_method
  | request_uri
  | fragment
  | start_query
  | query_string
  | http_version
  | request_path
  | done
  | xml
  | json
  deriving DecidableEq, Repr

def http_parser_start : Nat := 1

def http_parser_first_final : Nat := 348

def http_parser_error : Nat := 0

/-- The edges that do not test `uri_relaxed`. -/
def http_parser_table : Table HttpParser.Action := [
  (1, [⟨48, 57, [.mark], 2⟩, ⟨60, 60, [.mark], 194⟩, ⟨64, 64, [.mark], 198⟩, ⟨65, 90, [.mark], 2⟩]),
  (2, [⟨32, 32, [.request_method], 3⟩, ⟨48, 57, [], 175⟩, ⟨65, 90, [], 175⟩]),
  (3, [⟨32, 32, [.mark, .request_path, .request_uri], 4⟩, ⟨33, 33, [.mark], 19⟩,
    ⟨35, 35, [.mark, .request_path, .request_uri], 20⟩, ⟨36, 36, [.mark], 19⟩, ⟨37, 37, [.mark], 24⟩,
    ⟨38, 46, [.mark], 19⟩, ⟨47, 47, [.mark], 33⟩, ⟨48, 57, [.mark], 19⟩, ⟨59, 59, [.mark], 19⟩,
    ⟨61, 61, [.mark], 19⟩, ⟨63, 63, [.mark, .request_path], 29⟩, ⟨64, 64, [.mark], 19⟩, ⟨65, 90, [.mark], 173⟩,
    ⟨95, 95, [.mark], 19⟩, ⟨97, 122, [.mark], 173⟩, ⟨126, 126, [.mark], 19⟩]),
  (4, [⟨72, 72, [.mark], 5⟩]),
  (5, [⟨84, 84, [], 6⟩]),
  (6, [⟨84, 84, [], 7⟩]),
  (7, [⟨80, 80, [], 8⟩]),
  (8, [⟨47, 47, [], 9⟩]),
  (9, [⟨49, 49, [], 10⟩]),
  (10, [⟨46, 46, [], 11⟩]),
  (11, [⟨48, 49, [], 12⟩]),
  (12, [⟨10, 10, [.http_version], 13⟩, ⟨13, 13, [.http_version], 17⟩]),
  (13, [⟨1, 8, [.start_field], 14⟩, ⟨10, 10, [.start_field, .done], 348⟩, ⟨11, 12, [.start_field], 14⟩,
    ⟨13, 13, [.start_field], 18⟩, ⟨14, 31, [.start_field], 14⟩, ⟨33, 33, [.start_field], 14⟩,
    ⟨35, 39, [.start_field], 14⟩, ⟨42, 43, [.start_field], 14⟩, ⟨45, 46, [.start_field], 14⟩,
    ⟨48, 57, [.start_field], 14⟩, ⟨65, 90, [.start_field], 14⟩, ⟨94, 122, [.start_field], 14⟩,
    ⟨124, 124, [.start_field], 14⟩, ⟨126, 126, [.start_field], 14⟩]),
  (14, [⟨1, 8, [], 14⟩, ⟨10, 31, [], 14⟩, ⟨33, 33, [], 14⟩, ⟨35, 39, [], 14⟩, ⟨42, 43, [], 14⟩,
    ⟨45, 46, [], 14⟩, ⟨48, 57, [], 14⟩, ⟨58, 58, [.write_field], 15⟩, ⟨65, 90, [], 14⟩, ⟨94, 122, [], 14⟩,
    ⟨124, 124, [], 14⟩, ⟨126, 126, [], 14⟩]),
  (15, [⟨1, 8, [.start_value], 16⟩, ⟨9, 9, [.start_value], 15⟩, ⟨10, 10, [.start_value, .write_value], 13⟩,
    ⟨11, 12, [.start_value], 16⟩, ⟨13, 13, [.start_value, .write_value], 17⟩, ⟨14, 31, [.start_value], 16⟩,
    ⟨32, 32, [.start_value], 15⟩, ⟨33, 126, [.start_value], 16⟩, ⟨128, 255, [.start_value], 16⟩]),
  (16, [⟨1, 9, [], 16⟩, ⟨10, 10, [.write_value], 13⟩, ⟨11, 12, [], 16⟩, ⟨13, 13, [.write_value], 17⟩,
    ⟨14, 126, [], 16⟩, ⟨128, 255, [], 16⟩]),
  (17, [⟨10, 10, [], 13⟩]),
  (18, [⟨1, 8, [], 14⟩, ⟨10, 10, [.done], 348⟩, ⟨11, 31, [], 14⟩, ⟨33, 33, [], 14⟩, ⟨35, 39, [], 14⟩,
    ⟨42, 43, [], 14⟩, ⟨45, 46, [], 14⟩, ⟨48, 57, [], 14⟩, ⟨58, 58, [.write_field], 15⟩, ⟨65, 90, [], 14⟩,
    ⟨94, 122, [], 14⟩, ⟨124, 124, [], 14⟩, ⟨126, 126, [], 14⟩]),
  (19, [⟨32, 32, [.request_path, .request_uri], 4⟩, ⟨33, 33, [], 19⟩,
    ⟨35, 35, [.request_path, .request_uri], 20⟩, ⟨36, 36, [], 19⟩, ⟨37, 37, [], 24⟩, ⟨38, 46, [], 19⟩,
    ⟨47, 47, [], 26⟩, ⟨48, 57, [], 19⟩, ⟨59, 59, [], 19⟩, ⟨61, 61, [], 19⟩, ⟨63, 63, [.request_path], 29⟩,
    ⟨64, 90, [], 19⟩, ⟨95, 95, [], 19⟩, ⟨97, 122, [], 19⟩, ⟨126, 126, [], 19⟩]),
  (20, [⟨32, 32, [.mark, .fragment], 4⟩, ⟨33, 33, [.mark], 21⟩, ⟨36, 36, [.mark], 21⟩, ⟨37, 37, [.mark], 22⟩,
    ⟨38, 59, [.mark], 21⟩, ⟨61, 61, [.mark], 21⟩, ⟨63, 90, [.mark], 21⟩, ⟨95, 95, [.mark], 21⟩,
    ⟨97, 122, [.mark], 21⟩, ⟨126, 126, [.mark], 21⟩]),
  (21, [⟨32, 32, [.fragment], 4⟩, ⟨33, 33, [], 21⟩, ⟨36, 36, [], 21⟩, ⟨37, 37, [], 22⟩, ⟨38, 59, [], 21⟩,
    ⟨61, 61, [], 21⟩, ⟨63, 90, [], 21⟩, ⟨95, 95, [], 21⟩, ⟨97, 122, [], 21⟩, ⟨126, 126, [], 21⟩]),
  (22, [⟨48, 57, [], 23⟩, ⟨65, 70, [], 23⟩, ⟨97, 102, [], 23⟩]),
  (23, [⟨48, 57, [], 21⟩, ⟨65, 70, [], 21⟩, ⟨97, 102, [], 21⟩]),
  (24, [⟨48, 57, [], 25⟩, ⟨65, 70, [], 25⟩, ⟨97, 102, [], 25⟩]),
  (25, [⟨48, 57, [], 19⟩, ⟨65, 70, [], 19⟩, ⟨97, 102, [], 19⟩]),
  (26, [⟨32, 32, [.request_path, .request_uri], 4⟩, ⟨33, 33, [], 26⟩,
    ⟨35, 35, [.request_path, .request_uri], 20⟩, ⟨36, 36, [], 26⟩, ⟨37, 37, [], 27⟩, ⟨38, 59, [], 26⟩,
    ⟨61, 61, [], 26⟩, ⟨63, 63, [.request_path], 29⟩, ⟨64, 90, [], 26⟩, ⟨95, 95, [], 26⟩, ⟨97, 122, [], 26⟩,
    ⟨126, 126, [], 26⟩]),
  (27, [⟨48, 57, [], 28⟩, ⟨65, 70, [], 28⟩, ⟨97, 102, [], 28⟩]),
  (28, [⟨48, 57, [], 26⟩, ⟨65, 70, [], 26⟩, ⟨97, 102, [], 26⟩]),
  (29, [⟨32, 32, [.start_query, .query_string, .request_uri], 4⟩, ⟨33, 33, [.start_query], 30⟩,
    ⟨35, 35, [.start_query, .query_string, .request_uri], 20⟩, ⟨36, 36, [.start_query], 30⟩,
    ⟨37, 37, [.start_query], 31⟩, ⟨38, 59, [.start_query], 30⟩, ⟨61, 61, [.start_query], 30⟩,
    ⟨63, 90, [.start_query], 30⟩, ⟨95, 95, [.start_query], 30⟩, ⟨97, 122, [.start_query], 30⟩,
    ⟨126, 126, [.start_query], 30⟩]),
  (30, [⟨32, 32, [.query_string, .request_uri], 4⟩, ⟨33, 33, [], 30⟩,
    ⟨35, 35, [.query_string, .request_uri], 20⟩, ⟨36, 36, [], 30⟩, ⟨37, 37, [], 31⟩, ⟨38, 59, [], 30⟩,
    ⟨61, 61, [], 30⟩, ⟨63, 90, [], 30⟩, ⟨95, 95, [], 30⟩, ⟨97, 122, [], 30⟩, ⟨126, 126, [], 30⟩]),
  (31, [⟨48, 57, [], 32⟩, ⟨65, 70, [], 32⟩, ⟨97, 102, [], 32⟩]),
  (32, [⟨48, 57, [], 30⟩, ⟨65, 70, [], 30⟩, ⟨97, 102, [], 30⟩]),
  (33, [⟨32, 32, [.request_path, .request_uri], 4⟩, ⟨33, 33, [], 26⟩,
    ⟨35, 35, [.request_path, .request_uri], 20⟩, ⟨36, 36, [], 26⟩, ⟨37, 37, [], 27⟩, ⟨38, 46, [], 26⟩,
    ⟨47, 47, [], 34⟩, ⟨48, 59, [], 26⟩, ⟨61, 61, [], 26⟩, ⟨63, 63, [.request_path], 29⟩, ⟨64, 90, [], 26⟩,
    ⟨95, 95, [], 26⟩, ⟨97, 122, [], 26⟩, ⟨126, 126, [], 26⟩]),
  (34, [⟨32, 32, [.request_path, .request_uri], 4⟩, ⟨33, 33, [], 35⟩,
    ⟨35, 35, [.request_path, .request_uri], 20⟩, ⟨36, 36, [], 35⟩, ⟨37, 37, [], 36⟩, ⟨38, 46, [], 35⟩,
    ⟨47, 47, [], 26⟩, ⟨48, 57, [], 35⟩, ⟨58, 58, [], 38⟩, ⟨59, 59, [], 35⟩, ⟨61, 61, [], 35⟩,
    ⟨63, 63, [.request_path], 29⟩, ⟨64, 64, [], 42⟩, ⟨65, 90, [], 35⟩, ⟨91, 91, [], 47⟩, ⟨95, 95, [], 35⟩,
    ⟨97, 122, [], 35⟩, ⟨126, 126, [], 35⟩]),
  (35, [⟨32, 32, [.request_path, .request_uri], 4⟩, ⟨33, 33, [], 35⟩,
    ⟨35, 35, [.request_path, .request_uri], 20⟩, ⟨36, 36, [], 35⟩, ⟨37, 37, [], 36⟩, ⟨38, 46, [], 35⟩,
    ⟨47, 47, [], 26⟩, ⟨48, 57, [], 35⟩, ⟨58, 58, [], 38⟩, ⟨59, 59, [], 35⟩, ⟨61, 61, [], 35⟩,
    ⟨63, 63, [.request_path], 29⟩, ⟨64, 64, [], 42⟩, ⟨65, 90, [], 35⟩, ⟨95, 95, [], 35⟩, ⟨97, 122, [], 35⟩,
    ⟨126, 126, [], 35⟩]),
  (36, [⟨48, 57, [], 37⟩, ⟨65, 70, [], 37⟩, ⟨97, 102, [], 37⟩]),
  (37, [⟨48, 57, [], 35⟩, ⟨65, 70, [], 35⟩, ⟨97, 102, [], 35⟩]),
  (38, [⟨32, 32, [.request_path, .request_uri], 4⟩, ⟨33, 33, [], 39⟩,
    ⟨35, 35, [.request_path, .request_uri], 20⟩, ⟨36, 36, [], 39⟩, ⟨37, 37, [], 40⟩, ⟨38, 46, [], 39⟩,
    ⟨47, 47, [], 26⟩, ⟨48, 57, [], 38⟩, ⟨58, 59, [], 39⟩, ⟨61, 61, [], 39⟩, ⟨63, 63, [.request_path], 29⟩,
    ⟨64, 64, [], 42⟩, ⟨65, 90, [], 39⟩, ⟨95, 95, [], 39⟩, ⟨97, 122, [], 39⟩, ⟨126, 126, [], 39⟩]),
  (39, [⟨33, 33, [], 39⟩, ⟨36, 36, [], 39⟩, ⟨37, 37, [], 40⟩, ⟨38, 46, [], 39⟩, ⟨48, 59, [], 39⟩,
    ⟨61, 61, [], 39⟩, ⟨64, 64, [], 42⟩, ⟨65, 90, [], 39⟩, ⟨95, 95, [], 39⟩, ⟨97, 122, [], 39⟩,
    ⟨126, 126, [], 39⟩]),
  (40, [⟨48, 57, [], 41⟩, ⟨65, 70, [], 41⟩, ⟨97, 102, [], 41⟩]),
  (41, [⟨48, 57, [], 39⟩, ⟨65, 70, [], 39⟩, ⟨97, 102, [], 39⟩]),
  (42, [⟨32, 32, [.request_path, .request_uri], 4⟩, ⟨33, 33, [], 43⟩,
    ⟨35, 35, [.request_path, .request_uri], 20⟩, ⟨36, 36, [], 43⟩, ⟨37, 37, [], 44⟩, ⟨38, 46, [], 43⟩,
    ⟨47, 47, [], 26⟩, ⟨48, 57, [], 43⟩, ⟨58, 58, [], 46⟩, ⟨59, 59, [], 43⟩, ⟨61, 61, [], 43⟩,
    ⟨63, 63, [.request_path], 29⟩, ⟨65, 90, [], 43⟩, ⟨91, 91, [], 47⟩, ⟨95, 95, [], 43⟩, ⟨97, 122, [], 43⟩,
    ⟨126, 126, [], 43⟩]),
  (43, [⟨32, 32, [.request_path, .request_uri], 4⟩, ⟨33, 33, [], 43⟩,
    ⟨35, 35, [.request_path, .request_uri], 20⟩, ⟨36, 36, [], 43⟩, ⟨37, 37, [], 44⟩, ⟨38, 46, [], 43⟩,
    ⟨47, 47, [], 26⟩, ⟨48, 57, [], 43⟩, ⟨58, 58, [], 46⟩, ⟨59, 59, [], 43⟩, ⟨61, 61, [], 43⟩,
    ⟨63, 63, [.request_path], 29⟩, ⟨65, 90, [], 43⟩, ⟨95, 95, [], 43⟩, ⟨97, 122, [], 43⟩, ⟨126, 126, [], 43⟩]),
  (44, [⟨48, 57, [], 45⟩, ⟨65, 70, [], 45⟩, ⟨97, 102, [], 45⟩]),
  (45, [⟨48, 57, [], 43⟩, ⟨65, 70, [], 43⟩, ⟨97, 102, [], 43⟩]),
  (46, [⟨32, 32, [.request_path, .request_uri], 4⟩, ⟨35, 35, [.request_path, .request_uri], 20⟩,
    ⟨47, 47, [], 26⟩, ⟨48, 57, [], 46⟩, ⟨63, 63, [.request_path], 29⟩]),
  (47, [⟨6, 6, [], 48⟩, ⟨48, 57, [], 91⟩, ⟨58, 58, [], 167⟩, ⟨65, 70, [], 91⟩, ⟨97, 102, [], 91⟩,
    ⟨118, 118, [], 169⟩]),
  (48, [⟨48, 57, [], 49⟩, ⟨65, 70, [], 49⟩, ⟨97, 102, [], 49⟩]),
  (49, [⟨48, 57, [], 50⟩, ⟨58, 58, [], 53⟩, ⟨65, 70, [], 50⟩, ⟨97, 102, [], 50⟩]),
  (50, [⟨48, 57, [], 51⟩, ⟨58, 58, [], 53⟩, ⟨65, 70, [], 51⟩, ⟨97, 102, [], 51⟩]),
  (51, [⟨48, 57, [], 52⟩, ⟨58, 58, [], 53⟩, ⟨65, 70, [], 52⟩, ⟨97, 102, [], 52⟩]),
  (52, [⟨58, 58, [], 53⟩]),
  (53, [⟨48, 48, [], 54⟩, ⟨49, 49, [], 84⟩, ⟨50, 50, [], 87⟩, ⟨51, 57, [], 54⟩, ⟨65, 70, [], 90⟩,
    ⟨97, 102, [], 90⟩]),
  (54, [⟨46, 46, [], 55⟩, ⟨48, 57, [], 77⟩, ⟨58, 58, [], 80⟩, ⟨65, 70, [], 77⟩, ⟨97, 102, [], 77⟩]),
  (55, [⟨48, 48, [], 56⟩, ⟨49, 49, [], 72⟩, ⟨50, 50, [], 74⟩, ⟨51, 57, [], 56⟩]),
  (56, [⟨46, 46, [], 57⟩]),
  (57, [⟨48, 48, [], 58⟩, ⟨49, 49, [], 67⟩, ⟨50, 50, [], 69⟩, ⟨51, 57, [], 58⟩]),
  (58, [⟨46, 46, [], 59⟩]),
  (59, [⟨48, 48, [], 60⟩, ⟨49, 49, [], 62⟩, ⟨50, 50, [], 64⟩, ⟨51, 57, [], 60⟩]),
  (60, [⟨93, 93, [], 61⟩]),
  (61, [⟨32, 32, [.request_path, .request_uri], 4⟩, ⟨35, 35, [.request_path, .request_uri], 20⟩,
    ⟨47, 47, [], 26⟩, ⟨58, 58, [], 46⟩, ⟨63, 63, [.request_path], 29⟩]),
  (62, [⟨48, 57, [], 63⟩, ⟨93, 93, [], 61⟩]),
  (63, [⟨48, 57, [], 60⟩, ⟨93, 93, [], 61⟩]),
  (64, [⟨48, 48, [], 65⟩, ⟨53, 53, [], 66⟩, ⟨93, 93, [], 61⟩]),
  (65, [⟨48, 57, [], 60⟩]),
  (66, [⟨48, 48, [], 60⟩]),
  (67, [⟨46, 46, [], 59⟩, ⟨48, 57, [], 68⟩]),
  (68, [⟨46, 46, [], 59⟩, ⟨48, 57, [], 58⟩]),
  (69, [⟨46, 46, [], 59⟩, ⟨48, 48, [], 70⟩, ⟨53, 53, [], 71⟩]),
  (70, [⟨48, 57, [], 58⟩]),
  (71, [⟨48, 48, [], 58⟩]),
  (72, [⟨46, 46, [], 57⟩, ⟨48, 57, [], 73⟩]),
  (73, [⟨46, 46, [], 57⟩, ⟨48, 57, [], 56⟩]),
  (74, [⟨46, 46, [], 57⟩, ⟨48, 48, [], 75⟩, ⟨53, 53, [], 76⟩]),
  (75, [⟨48, 57, [], 56⟩]),
  (76, [⟨48, 48, [], 56⟩]),
  (77, [⟨48, 57, [], 78⟩, ⟨58, 58, [], 80⟩, ⟨65, 70, [], 78⟩, ⟨97, 102, [], 78⟩]),
  (78, [⟨48, 57, [], 79⟩, ⟨58, 58, [], 80⟩, ⟨65, 70, [], 79⟩, ⟨97, 102, [], 79⟩]),
  (79, [⟨58, 58, [], 80⟩]),
  (80, [⟨48, 57, [], 81⟩, ⟨65, 70, [], 81⟩, ⟨97, 102, [], 81⟩]),
  (81, [⟨48, 57, [], 82⟩, ⟨65, 70, [], 82⟩, ⟨93, 93, [], 61⟩, ⟨97, 102, [], 82⟩]),
  (82, [⟨48, 57, [], 83⟩, ⟨65, 70, [], 83⟩, ⟨93, 93, [], 61⟩, ⟨97, 102, [], 83⟩]),
  (83, [⟨48, 57, [], 60⟩, ⟨65, 70, [], 60⟩, ⟨93, 93, [], 61⟩, ⟨97, 102, [], 60⟩]),
  (84, [⟨46, 46, [], 55⟩, ⟨48, 57, [], 85⟩, ⟨58, 58, [], 80⟩, ⟨65, 70, [], 77⟩, ⟨97, 102, [], 77⟩]),
  (85, [⟨46, 46, [], 55⟩, ⟨48, 57, [], 86⟩, ⟨58, 58, [], 80⟩, ⟨65, 70, [], 78⟩, ⟨97, 102, [], 78⟩]),
  (86, [⟨46, 46, [], 55⟩, ⟨48, 57, [], 79⟩, ⟨58, 58, [], 80⟩, ⟨65, 70, [], 79⟩, ⟨97, 102, [], 79⟩]),
  (87, [⟨46, 46, [], 55⟩, ⟨48, 48, [], 88⟩, ⟨49, 52, [], 77⟩, ⟨53, 53, [], 89⟩, ⟨54, 57, [], 77⟩,
    ⟨58, 58, [], 80⟩, ⟨65, 70, [], 77⟩, ⟨97, 102, [], 77⟩]),
  (88, [⟨48, 57, [], 86⟩, ⟨58, 58, [], 80⟩, ⟨65, 70, [], 78⟩, ⟨97, 102, [], 78⟩]),
  (89, [⟨48, 48, [], 86⟩, ⟨49, 57, [], 78⟩, ⟨58, 58, [], 80⟩, ⟨65, 70, [], 78⟩, ⟨97, 102, [], 78⟩]),
  (90, [⟨48, 57, [], 77⟩, ⟨58, 58, [], 80⟩, ⟨65, 70, [], 77⟩, ⟨97, 102, [], 77⟩]),
  (91, [⟨48, 57, [], 92⟩, ⟨58, 58, [], 95⟩, ⟨65, 70, [], 92⟩, ⟨97, 102, [], 92⟩]),
  (92, [⟨48, 57, [], 93⟩, ⟨58, 58, [], 95⟩, ⟨65, 70, [], 93⟩, ⟨97, 102, [], 93⟩]),
  (93, [⟨48, 57, [], 94⟩, ⟨58, 58, [], 95⟩, ⟨65, 70, [], 94⟩, ⟨97, 102, [], 94⟩]),
  (94, [⟨58, 58, [], 95⟩]),
  (95, [⟨48, 57, [], 96⟩, ⟨58, 58, [], 166⟩, ⟨65, 70, [], 96⟩, ⟨97, 102, [], 96⟩]),
  (96, [⟨48, 57, [], 97⟩, ⟨58, 58, [], 100⟩, ⟨65, 70, [], 97⟩, ⟨97, 102, [], 97⟩]),
  (97, [⟨48, 57, [], 98⟩, ⟨58, 58, [], 100⟩, ⟨65, 70, [], 98⟩, ⟨97, 102, [], 98⟩]),
  (98, [⟨48, 57, [], 99⟩, ⟨58, 58, [], 100⟩, ⟨65, 70, [], 99⟩, ⟨97, 102, [], 99⟩]),
  (99, [⟨58, 58, [], 100⟩]),
  (100, [⟨48, 57, [], 101⟩, ⟨58, 58, [], 165⟩, ⟨65, 70, [], 101⟩, ⟨97, 102, [], 101⟩]),
  (101, [⟨48, 57, [], 102⟩, ⟨58, 58, [], 105⟩, ⟨65, 70, [], 102⟩, ⟨97, 102, [], 102⟩]),
  (102, [⟨48, 57, [], 103⟩, ⟨58, 58, [], 105⟩, ⟨65, 70, [], 103⟩, ⟨97, 102, [], 103⟩]),
  (103, [⟨48, 57, [], 104⟩, ⟨58, 58, [], 105⟩, ⟨65, 70, [], 104⟩, ⟨97, 102, [], 104⟩]),
  (104, [⟨58, 58, [], 105⟩]),
  (105, [⟨48, 57, [], 106⟩, ⟨58, 58, [], 164⟩, ⟨65, 70, [], 106⟩, ⟨97, 102, [], 106⟩]),
  (106, [⟨48, 57, [], 107⟩, ⟨58, 58, [], 110⟩, ⟨65, 70, [], 107⟩, ⟨97, 102, [], 107⟩]),
  (107, [⟨48, 57, [], 108⟩, ⟨58, 58, [], 110⟩, ⟨65, 70, [], 108⟩, ⟨97, 102, [], 108⟩]),
  (108, [⟨48, 57, [], 109⟩, ⟨58, 58, [], 110⟩, ⟨65, 70, [], 109⟩, ⟨97, 102, [], 109⟩]),
  (109, [⟨58, 58, [], 110⟩]),
  (110, [⟨48, 57, [], 111⟩, ⟨58, 58, [], 163⟩, ⟨65, 70, [], 111⟩, ⟨97, 102, [], 111⟩]),
  (111, [⟨48, 57, [], 112⟩, ⟨58, 58, [], 115⟩, ⟨65, 70, [], 112⟩, ⟨97, 102, [], 112⟩]),
  (112, [⟨48, 57, [], 113⟩, ⟨58, 58, [], 115⟩, ⟨65, 70, [], 113⟩, ⟨97, 102, [], 113⟩]),
  (113, [⟨48, 57, [], 114⟩, ⟨58, 58, [], 115⟩, ⟨65, 70, [], 114⟩, ⟨97, 102, [], 114⟩]),
  (114, [⟨58, 58, [], 115⟩]),
  (115, [⟨48, 57, [], 116⟩, ⟨58, 58, [], 151⟩, ⟨65, 70, [], 116⟩, ⟨97, 102, [], 116⟩]),
  (116, [⟨48, 57, [], 117⟩, ⟨58, 58, [], 120⟩, ⟨65, 70, [], 117⟩, ⟨97, 102, [], 117⟩]),
  (117, [⟨48, 57, [], 118⟩, ⟨58, 58, [], 120⟩, ⟨65, 70, [], 118⟩, ⟨97, 102, [], 118⟩]),
  (118, [⟨48, 57, [], 119⟩, ⟨58, 58, [], 120⟩, ⟨65, 70, [], 119⟩, ⟨97, 102, [], 119⟩]),
  (119, [⟨58, 58, [], 120⟩]),
  (120, [⟨48, 57, [], 121⟩, ⟨58, 58, [], 150⟩, ⟨65, 70, [], 121⟩, ⟨97, 102, [], 121⟩]),
  (121, [⟨48, 57, [], 122⟩, ⟨58, 58, [], 125⟩, ⟨65, 70, [], 122⟩, ⟨97, 102, [], 122⟩]),
  (122, [⟨48, 57, [], 123⟩, ⟨58, 58, [], 125⟩, ⟨65, 70, [], 123⟩, ⟨97, 102, [], 123⟩]),
  (123, [⟨48, 57, [], 124⟩, ⟨58, 58, [], 125⟩, ⟨65, 70, [], 124⟩, ⟨97, 102, [], 124⟩]),
  (124, [⟨58, 58, [], 125⟩]),
  (125, [⟨48, 57, [], 121⟩, ⟨58, 58, [], 126⟩, ⟨65, 70, [], 121⟩, ⟨97, 102, [], 121⟩]),
  (126, [⟨2, 3, [], 48⟩, ⟨48, 48, [], 127⟩, ⟨49, 49, [], 143⟩, ⟨50, 50, [], 146⟩, ⟨51, 57, [], 127⟩,
    ⟨65, 70, [], 149⟩, ⟨93, 93, [], 61⟩, ⟨97, 102, [], 149⟩]),
  (127, [⟨46, 46, [], 55⟩, ⟨48, 57, [], 128⟩, ⟨58, 58, [], 131⟩, ⟨65, 70, [], 128⟩, ⟨93, 93, [], 61⟩,
    ⟨97, 102, [], 128⟩]),
  (128, [⟨48, 57, [], 129⟩, ⟨58, 58, [], 131⟩, ⟨65, 70, [], 129⟩, ⟨93, 93, [], 61⟩, ⟨97, 102, [], 129⟩]),
  (129, [⟨48, 57, [], 130⟩, ⟨58, 58, [], 131⟩, ⟨65, 70, [], 130⟩, ⟨93, 93, [], 61⟩, ⟨97, 102, [], 130⟩]),
  (130, [⟨58, 58, [], 131⟩, ⟨93, 93, [], 61⟩]),
  (131, [⟨48, 48, [], 132⟩, ⟨49, 49, [], 136⟩, ⟨50, 50, [], 139⟩, ⟨51, 57, [], 132⟩, ⟨65, 70, [], 142⟩,
    ⟨97, 102, [], 142⟩]),
  (132, [⟨46, 46, [], 55⟩, ⟨48, 57, [], 133⟩, ⟨58, 58, [], 80⟩, ⟨65, 70, [], 133⟩, ⟨93, 93, [], 61⟩,
    ⟨97, 102, [], 133⟩]),
  (133, [⟨48, 57, [], 134⟩, ⟨58, 58, [], 80⟩, ⟨65, 70, [], 134⟩, ⟨93, 93, [], 61⟩, ⟨97, 102, [], 134⟩]),
  (134, [⟨48, 57, [], 135⟩, ⟨58, 58, [], 80⟩, ⟨65, 70, [], 135⟩, ⟨93, 93, [], 61⟩, ⟨97, 102, [], 135⟩]),
  (135, [⟨58, 58, [], 80⟩, ⟨93, 93, [], 61⟩]),
  (136, [⟨46, 46, [], 55⟩, ⟨48, 57, [], 137⟩, ⟨58, 58, [], 80⟩, ⟨65, 70, [], 133⟩, ⟨93, 93, [], 61⟩,
    ⟨97, 102, [], 133⟩]),
  (137, [⟨46, 46, [], 55⟩, ⟨48, 57, [], 138⟩, ⟨58, 58, [], 80⟩, ⟨65, 70, [], 134⟩, ⟨93, 93, [], 61⟩,
    ⟨97, 102, [], 134⟩]),
  (138, [⟨46, 46, [], 55⟩, ⟨48, 57, [], 135⟩, ⟨58, 58, [], 80⟩, ⟨65, 70, [], 135⟩, ⟨93, 93, [], 61⟩,
    ⟨97, 102, [], 135⟩]),
  (139, [⟨46, 46, [], 55⟩, ⟨48, 48, [], 140⟩, ⟨49, 52, [], 133⟩, ⟨53, 53, [], 141⟩, ⟨54, 57, [], 133⟩,
    ⟨58, 58, [], 80⟩, ⟨65, 70, [], 133⟩, ⟨93, 93, [], 61⟩, ⟨97, 102, [], 133⟩]),
  (140, [⟨48, 57, [], 138⟩, ⟨58, 58, [], 80⟩, ⟨65, 70, [], 134⟩, ⟨93, 93, [], 61⟩, ⟨97, 102, [], 134⟩]),
  (141, [⟨48, 48, [], 138⟩, ⟨49, 57, [], 134⟩, ⟨58, 58, [], 80⟩, ⟨65, 70, [], 134⟩, ⟨93, 93, [], 61⟩,
    ⟨97, 102, [], 134⟩]),
  (142, [⟨48, 57, [], 133⟩, ⟨58, 58, [], 80⟩, ⟨65, 70, [], 133⟩, ⟨93, 93, [], 61⟩, ⟨97, 102, [], 133⟩]),
  (143, [⟨46, 46, [], 55⟩, ⟨48, 57, [], 144⟩, ⟨58, 58, [], 131⟩, ⟨65, 70, [], 128⟩, ⟨93, 93, [], 61⟩,
    ⟨97, 102, [], 128⟩]),
  (144, [⟨46, 46, [], 55⟩, ⟨48, 57, [], 145⟩, ⟨58, 58, [], 131⟩, ⟨65, 70, [], 129⟩, ⟨93, 93, [], 61⟩,
    ⟨97, 102, [], 129⟩]),
  (145, [⟨46, 46, [], 55⟩, ⟨48, 57, [], 130⟩, ⟨58, 58, [], 131⟩, ⟨65, 70, [], 130⟩, ⟨93, 93, [], 61⟩,
    ⟨97, 102, [], 130⟩]),
  (146, [⟨46, 46, [], 55⟩, ⟨48, 48, [], 147⟩, ⟨49, 52, [], 128⟩, ⟨53, 53, [], 148⟩, ⟨54, 57, [], 128⟩,
    ⟨58, 58, [], 131⟩, ⟨65, 70, [], 128⟩, ⟨93, 93, [], 61⟩, ⟨97, 102, [], 128⟩]),
  (147, [⟨48, 57, [], 145⟩, ⟨58, 58, [], 131⟩, ⟨65, 70, [], 129⟩, ⟨93, 93, [], 61⟩, ⟨97, 102, [], 129⟩]),
  (148, [⟨48, 48, [], 145⟩, ⟨49, 57, [], 129⟩, ⟨58, 58, [], 131⟩, ⟨65, 70, [], 129⟩, ⟨93, 93, [], 61⟩,
    ⟨97, 102, [], 129⟩]),
  (149, [⟨48, 57, [], 128⟩, ⟨58, 58, [], 131⟩, ⟨65, 70, [], 128⟩, ⟨93, 93, [], 61⟩, ⟨97, 102, [], 128⟩]),
  (150, [⟨2, 3, [], 48⟩, ⟨48, 48, [], 127⟩, ⟨49, 49, [], 143⟩, ⟨50, 50, [], 146⟩, ⟨51, 57, [], 127⟩,
    ⟨65, 70, [], 149⟩, ⟨97, 102, [], 149⟩]),
  (151, [⟨2, 3, [], 48⟩, ⟨48, 48, [], 152⟩, ⟨49, 49, [], 156⟩, ⟨50, 50, [], 159⟩, ⟨51, 57, [], 152⟩,
    ⟨65, 70, [], 162⟩, ⟨97, 102, [], 162⟩]),
  (152, [⟨46, 46, [], 55⟩, ⟨48, 57, [], 153⟩, ⟨58, 58, [], 131⟩, ⟨65, 70, [], 153⟩, ⟨97, 102, [], 153⟩]),
  (153, [⟨48, 57, [], 154⟩, ⟨58, 58, [], 131⟩, ⟨65, 70, [], 154⟩, ⟨97, 102, [], 154⟩]),
  (154, [⟨48, 57, [], 155⟩, ⟨58, 58, [], 131⟩, ⟨65, 70, [], 155⟩, ⟨97, 102, [], 155⟩]),
  (155, [⟨58, 58, [], 131⟩]),
  (156, [⟨46, 46, [], 55⟩, ⟨48, 57, [], 157⟩, ⟨58, 58, [], 131⟩, ⟨65, 70, [], 153⟩, ⟨97, 102, [], 153⟩]),
  (157, [⟨46, 46, [], 55⟩, ⟨48, 57, [], 158⟩, ⟨58, 58, [], 131⟩, ⟨65, 70, [], 154⟩, ⟨97, 102, [], 154⟩]),
  (158, [⟨46, 46, [], 55⟩, ⟨48, 57, [], 155⟩, ⟨58, 58, [], 131⟩, ⟨65, 70, [], 155⟩, ⟨97, 102, [], 155⟩]),
  (159, [⟨46, 46, [], 55⟩, ⟨48, 48, [], 160⟩, ⟨49, 52, [], 153⟩, ⟨53, 53, [], 161⟩, ⟨54, 57, [], 153⟩,
    ⟨58, 58, [], 131⟩, ⟨65, 70, [], 153⟩, ⟨97, 102, [], 153⟩]),
  (160, [⟨48, 57, [], 158⟩, ⟨58, 58, [], 131⟩, ⟨65, 70, [], 154⟩, ⟨97, 102, [], 154⟩]),
  (161, [⟨48, 48, [], 158⟩, ⟨49, 57, [], 154⟩, ⟨58, 58, [], 131⟩, ⟨65, 70, [], 154⟩, ⟨97, 102, [], 154⟩]),
  (162, [⟨48, 57, [], 153⟩, ⟨58, 58, [], 131⟩, ⟨65, 70, [], 153⟩, ⟨97, 102, [], 153⟩]),
  (163, [⟨2, 3, [], 48⟩, ⟨48, 57, [], 49⟩, ⟨65, 70, [], 49⟩, ⟨97, 102, [], 49⟩]),
  (164, [⟨2, 3, [], 48⟩]),
  (165, [⟨3, 3, [], 48⟩]),
  (166, [⟨4, 4, [], 48⟩]),
  (167, [⟨58, 58, [], 168⟩]),
  (168, [⟨2, 5, [], 48⟩, ⟨48, 48, [], 127⟩, ⟨49, 49, [], 143⟩, ⟨50, 50, [], 146⟩, ⟨51, 57, [], 127⟩,
    ⟨65, 70, [], 149⟩, ⟨93, 93, [], 61⟩, ⟨97, 102, [], 149⟩]),
  (169, [⟨48, 57, [], 170⟩, ⟨65, 70, [], 170⟩, ⟨97, 102, [], 170⟩]),
  (170, [⟨46, 46, [], 171⟩, ⟨48, 57, [], 170⟩, ⟨65, 70, [], 170⟩, ⟨97, 102, [], 170⟩]),
  (171, [⟨33, 33, [], 172⟩, ⟨36, 36, [], 172⟩, ⟨38, 46, [], 172⟩, ⟨48, 59, [], 172⟩, ⟨61, 61, [], 172⟩,
    ⟨65, 90, [], 172⟩, ⟨95, 95, [], 172⟩, ⟨97, 122, [], 172⟩, ⟨126, 126, [], 172⟩]),
  (172, [⟨33, 33, [], 172⟩, ⟨36, 36, [], 172⟩, ⟨38, 46, [], 172⟩, ⟨48, 59, [], 172⟩, ⟨61, 61, [], 172⟩,
    ⟨65, 90, [], 172⟩, ⟨93, 93, [], 61⟩, ⟨95, 95, [], 172⟩, ⟨97, 122, [], 172⟩, ⟨126, 126, [], 172⟩]),
  (173, [⟨32, 32, [.request_path, .request_uri], 4⟩, ⟨33, 33, [], 19⟩,
    ⟨35, 35, [.request_path, .request_uri], 20⟩, ⟨36, 36, [], 19⟩, ⟨37, 37, [], 24⟩, ⟨38, 42, [], 19⟩,
    ⟨43, 43, [], 173⟩, ⟨44, 44, [], 19⟩, ⟨45, 46, [], 173⟩, ⟨47, 47, [], 26⟩, ⟨48, 57, [], 173⟩,
    ⟨58, 58, [], 174⟩, ⟨59, 59, [], 19⟩, ⟨61, 61, [], 19⟩, ⟨63, 63, [.request_path], 29⟩, ⟨64, 64, [], 19⟩,
    ⟨65, 90, [], 173⟩, ⟨95, 95, [], 19⟩, ⟨97, 122, [], 173⟩, ⟨126, 126, [], 19⟩]),
  (174, [⟨32, 32, [.mark, .request_path, .request_uri], 4⟩, ⟨33, 33, [.mark], 26⟩,
    ⟨35, 35, [.mark, .request_path, .request_uri], 20⟩, ⟨36, 36, [.mark], 26⟩, ⟨37, 37, [.mark], 27⟩,
    ⟨38, 46, [.mark], 26⟩, ⟨47, 47, [.mark], 33⟩, ⟨48, 59, [.mark], 26⟩, ⟨61, 61, [.mark], 26⟩,
    ⟨63, 63, [.mark, .request_path], 29⟩, ⟨64, 90, [.mark], 26⟩, ⟨95, 95, [.mark], 26⟩, ⟨97, 122, [.mark], 26⟩,
    ⟨126, 126, [.mark], 26⟩]),
  (175, [⟨32, 32, [.request_method], 3⟩, ⟨48, 57, [], 176⟩, ⟨65, 90, [], 176⟩]),
  (176, [⟨32, 32, [.request_method], 3⟩, ⟨48, 57, [], 177⟩, ⟨65, 90, [], 177⟩]),
  (177, [⟨32, 32, [.request_method], 3⟩, ⟨48, 57, [], 178⟩, ⟨65, 90, [], 178⟩]),
  (178, [⟨32, 32, [.request_method], 3⟩, ⟨48, 57, [], 179⟩, ⟨65, 90, [], 179⟩]),
  (179, [⟨32, 32, [.request_method], 3⟩, ⟨48, 57, [], 180⟩, ⟨65, 90, [], 180⟩]),
  (180, [⟨32, 32, [.request_method], 3⟩, ⟨48, 57, [], 181⟩, ⟨65, 90, [], 181⟩]),
  (181, [⟨32, 32, [.request_method], 3⟩, ⟨48, 57, [], 182⟩, ⟨65, 90, [], 182⟩]),
  (182, [⟨32, 32, [.request_method], 3⟩, ⟨48, 57, [], 183⟩, ⟨65, 90, [], 183⟩]),
  (183, [⟨32, 32, [.request_method], 3⟩, ⟨48, 57, [], 184⟩, ⟨65, 90, [], 184⟩]),
  (184, [⟨32, 32, [.request_method], 3⟩, ⟨48, 57, [], 185⟩, ⟨65, 90, [], 185⟩]),
  (185, [⟨32, 32, [.request_method], 3⟩, ⟨48, 57, [], 186⟩, ⟨65, 90, [], 186⟩]),
  (186, [⟨32, 32, [.request_method], 3⟩, ⟨48, 57, [], 187⟩, ⟨65, 90, [], 187⟩]),
  (187, [⟨32, 32, [.request_method], 3⟩, ⟨48, 57, [], 188⟩, ⟨65, 90, [], 188⟩]),
  (188, [⟨32, 32, [.request_method], 3⟩, ⟨48, 57, [], 189⟩, ⟨65, 90, [], 189⟩]),
  (189, [⟨32, 32, [.request_method], 3⟩, ⟨48, 57, [], 190⟩, ⟨65, 90, [], 190⟩]),
  (190, [⟨32, 32, [.request_method], 3⟩, ⟨48, 57, [], 191⟩, ⟨65, 90, [], 191⟩]),
  (191, [⟨32, 32, [.request_method], 3⟩, ⟨48, 57, [], 192⟩, ⟨65, 90, [], 192⟩]),
  (192, [⟨32, 32, [.request_method], 3⟩, ⟨48, 57, [], 193⟩, ⟨65, 90, [], 193⟩]),
  (193, [⟨32, 32, [.request_method], 3⟩]),
  (194, [⟨45, 46, [], 195⟩, ⟨48, 57, [], 195⟩, ⟨65, 90, [], 195⟩, ⟨97, 122, [], 195⟩]),
  (195, [⟨9, 13, [.request_path], 196⟩, ⟨32, 32, [.request_path], 196⟩, ⟨45, 46, [], 195⟩,
    ⟨47, 47, [.request_path], 196⟩, ⟨48, 57, [], 195⟩, ⟨62, 62, [.request_path], 196⟩, ⟨65, 90, [], 195⟩,
    ⟨97, 122, [], 195⟩]),
  (196, [⟨0, 61, [], 196⟩, ⟨62, 62, [], 197⟩, ⟨63, 255, [], 196⟩]),
  (197, [⟨0, 0, [.xml, .done], 349⟩, ⟨1, 61, [], 196⟩, ⟨62, 62, [], 197⟩, ⟨63, 255, [], 196⟩]),
  (198, [⟨32, 32, [.request_path], 199⟩, ⟨33, 33, [], 202⟩, ⟨36, 36, [], 202⟩, ⟨37, 37, [], 203⟩,
    ⟨38, 46, [], 202⟩, ⟨47, 47, [], 208⟩, ⟨48, 57, [], 202⟩, ⟨59, 59, [], 202⟩, ⟨61, 61, [], 202⟩,
    ⟨64, 90, [], 202⟩, ⟨95, 95, [], 202⟩, ⟨97, 122, [], 202⟩, ⟨126, 126, [], 202⟩]),
  (199, [⟨123, 123, [.mark], 200⟩]),
  (200, [⟨0, 124, [], 200⟩, ⟨125, 125, [], 201⟩, ⟨126, 255, [], 200⟩]),
  (201, [⟨0, 0, [.json, .done], 349⟩, ⟨1, 124, [], 200⟩, ⟨125, 125, [], 201⟩, ⟨126, 255, [], 200⟩]),
  (202, [⟨32, 32, [.request_path], 199⟩, ⟨33, 33, [], 202⟩, ⟨36, 36, [], 202⟩, ⟨37, 37, [], 203⟩,
    ⟨38, 46, [], 202⟩, ⟨47, 47, [], 205⟩, ⟨48, 57, [], 202⟩, ⟨59, 59, [], 202⟩, ⟨61, 61, [], 202⟩,
    ⟨64, 90, [], 202⟩, ⟨95, 95, [], 202⟩, ⟨97, 122, [], 202⟩, ⟨126, 126, [], 202⟩]),
  (203, [⟨48, 57, [], 204⟩, ⟨65, 70, [], 204⟩, ⟨97, 102, [], 204⟩]),
  (204, [⟨48, 57, [], 202⟩, ⟨65, 70, [], 202⟩, ⟨97, 102, [], 202⟩]),
  (205, [⟨32, 32, [.request_path], 199⟩, ⟨33, 33, [], 205⟩, ⟨36, 36, [], 205⟩, ⟨37, 37, [], 206⟩,
    ⟨38, 59, [], 205⟩, ⟨61, 61, [], 205⟩, ⟨64, 90, [], 205⟩, ⟨95, 95, [], 205⟩, ⟨97, 122, [], 205⟩,
    ⟨126, 126, [], 205⟩]),
  (206, [⟨48, 57, [], 207⟩, ⟨65, 70, [], 207⟩, ⟨97, 102, [], 207⟩]),
  (207, [⟨48, 57, [], 205⟩, ⟨65, 70, [], 205⟩, ⟨97, 102, [], 205⟩]),
  (208, [⟨32, 32, [.request_path], 199⟩, ⟨33, 33, [], 205⟩, ⟨36, 36, [], 205⟩, ⟨37, 37, [], 206⟩,
    ⟨38, 46, [], 205⟩, ⟨47, 47, [], 209⟩, ⟨48, 59, [], 205⟩, ⟨61, 61, [], 205⟩, ⟨64, 90, [], 205⟩,
    ⟨95, 95, [], 205⟩, ⟨97, 122, [], 205⟩, ⟨126, 126, [], 205⟩]),
  (209, [⟨32, 32, [.request_path], 199⟩, ⟨33, 33, [], 210⟩, ⟨36, 36, [], 210⟩, ⟨37, 37, [], 211⟩,
    ⟨38, 46, [], 210⟩, ⟨47, 47, [], 205⟩, ⟨48, 57, [], 210⟩, ⟨58, 58, [], 213⟩, ⟨59, 59, [], 210⟩,
    ⟨61, 61, [], 210⟩, ⟨64, 64, [], 217⟩, ⟨65, 90, [], 210⟩, ⟨91, 91, [], 222⟩, ⟨95, 95, [], 210⟩,
    ⟨97, 122, [], 210⟩, ⟨126, 126, [], 210⟩]),
  (210, [⟨32, 32, [.request_path], 199⟩, ⟨33, 33, [], 210⟩, ⟨36, 36, [], 210⟩, ⟨37, 37, [], 211⟩,
    ⟨38, 46, [], 210⟩, ⟨47, 47, [], 205⟩, ⟨48, 57, [], 210⟩, ⟨58, 58, [], 213⟩, ⟨59, 59, [], 210⟩,
    ⟨61, 61, [], 210⟩, ⟨64, 64, [], 217⟩, ⟨65, 90, [], 210⟩, ⟨95, 95, [], 210⟩, ⟨97, 122, [], 210⟩,
    ⟨126, 126, [], 210⟩]),
  (211, [⟨48, 57, [], 212⟩, ⟨65, 70, [], 212⟩, ⟨97, 102, [], 212⟩]),
  (212, [⟨48, 57, [], 210⟩, ⟨65, 70, [], 210⟩, ⟨97, 102, [], 210⟩]),
  (213, [⟨32, 32, [.request_path], 199⟩, ⟨33, 33, [], 214⟩, ⟨36, 36, [], 214⟩, ⟨37, 37, [], 215⟩,
    ⟨38, 46, [], 214⟩, ⟨47, 47, [], 205⟩, ⟨48, 57, [], 213⟩, ⟨58, 59, [], 214⟩, ⟨61, 61, [], 214⟩,
    ⟨64, 64, [], 217⟩, ⟨65, 90, [], 214⟩, ⟨95, 95, [], 214⟩, ⟨97, 122, [], 214⟩, ⟨126, 126, [], 214⟩]),
  (214, [⟨33, 33, [], 214⟩, ⟨36, 36, [], 214⟩, ⟨37, 37, [], 215⟩, ⟨38, 46, [], 214⟩, ⟨48, 59, [], 214⟩,
    ⟨61, 61, [], 214⟩, ⟨64, 64, [], 217⟩, ⟨65, 90, [], 214⟩, ⟨95, 95, [], 214⟩, ⟨97, 122, [], 214⟩,
    ⟨126, 126, [], 214⟩]),
  (215, [⟨48, 57, [], 216⟩, ⟨65, 70, [], 216⟩, ⟨97, 102, [], 216⟩]),
  (216, [⟨48, 57, [], 214⟩, ⟨65, 70, [], 214⟩, ⟨97, 102, [], 214⟩]),
  (217, [⟨32, 32, [.request_path], 199⟩, ⟨33, 33, [], 218⟩, ⟨36, 36, [], 218⟩, ⟨37, 37, [], 219⟩,
    ⟨38, 46, [], 218⟩, ⟨47, 47, [], 205⟩, ⟨48, 57, [], 218⟩, ⟨58, 58, [], 221⟩, ⟨59, 59, [], 218⟩,
    ⟨61, 61, [], 218⟩, ⟨65, 90, [], 218⟩, ⟨91, 91, [], 222⟩, ⟨95, 95, [], 218⟩, ⟨97, 122, [], 218⟩,
    ⟨126, 126, [], 218⟩]),
  (218, [⟨32, 32, [.request_path], 199⟩, ⟨33, 33, [], 218⟩, ⟨36, 36, [], 218⟩, ⟨37, 37, [], 219⟩,
    ⟨38, 46, [], 218⟩, ⟨47, 47, [], 205⟩, ⟨48, 57, [], 218⟩, ⟨58, 58, [], 221⟩, ⟨59, 59, [], 218⟩,
    ⟨61, 61, [], 218⟩, ⟨65, 90, [], 218⟩, ⟨95, 95, [], 218⟩, ⟨97, 122, [], 218⟩, ⟨126, 126, [], 218⟩]),
  (219, [⟨48, 57, [], 220⟩, ⟨65, 70, [], 220⟩, ⟨97, 102, [], 220⟩]),
  (220, [⟨48, 57, [], 218⟩, ⟨65, 70, [], 218⟩, ⟨97, 102, [], 218⟩]),
  (221, [⟨32, 32, [.request_path], 199⟩, ⟨47, 47, [], 205⟩, ⟨48, 57, [], 221⟩]),
  (222, [⟨6, 6, [], 223⟩, ⟨48, 57, [], 266⟩, ⟨58, 58, [], 342⟩, ⟨65, 70, [], 266⟩, ⟨97, 102, [], 266⟩,
    ⟨118, 118, [], 344⟩]),
  (223, [⟨48, 57, [], 224⟩, ⟨65, 70, [], 224⟩, ⟨97, 102, [], 224⟩]),
  (224, [⟨48, 57, [], 225⟩, ⟨58, 58, [], 228⟩, ⟨65, 70, [], 225⟩, ⟨97, 102, [], 225⟩]),
  (225, [⟨48, 57, [], 226⟩, ⟨58, 58, [], 228⟩, ⟨65, 70, [], 226⟩, ⟨97, 102, [], 226⟩]),
  (226, [⟨48, 57, [], 227⟩, ⟨58, 58, [], 228⟩, ⟨65, 70, [], 227⟩, ⟨97, 102, [], 227⟩]),
  (227, [⟨58, 58, [], 228⟩]),
  (228, [⟨48, 48, [], 229⟩, ⟨49, 49, [], 259⟩, ⟨50, 50, [], 262⟩, ⟨51, 57, [], 229⟩, ⟨65, 70, [], 265⟩,
    ⟨97, 102, [], 265⟩]),
  (229, [⟨46, 46, [], 230⟩, ⟨48, 57, [], 252⟩, ⟨58, 58, [], 255⟩, ⟨65, 70, [], 252⟩, ⟨97, 102, [], 252⟩]),
  (230, [⟨48, 48, [], 231⟩, ⟨49, 49, [], 247⟩, ⟨50, 50, [], 249⟩, ⟨51, 57, [], 231⟩]),
  (231, [⟨46, 46, [], 232⟩]),
  (232, [⟨48, 48, [], 233⟩, ⟨49, 49, [], 242⟩, ⟨50, 50, [], 244⟩, ⟨51, 57, [], 233⟩]),
  (233, [⟨46, 46, [], 234⟩]),
  (234, [⟨48, 48, [], 235⟩, ⟨49, 49, [], 237⟩, ⟨50, 50, [], 239⟩, ⟨51, 57, [], 235⟩]),
  (235, [⟨93, 93, [], 236⟩]),
  (236, [⟨32, 32, [.request_path], 199⟩, ⟨47, 47, [], 205⟩, ⟨58, 58, [], 221⟩]),
  (237, [⟨48, 57, [], 238⟩, ⟨93, 93, [], 236⟩]),
  (238, [⟨48, 57, [], 235⟩, ⟨93, 93, [], 236⟩]),
  (239, [⟨48, 48, [], 240⟩, ⟨53, 53, [], 241⟩, ⟨93, 93, [], 236⟩]),
  (240, [⟨48, 57, [], 235⟩]),
  (241, [⟨48, 48, [], 235⟩]),
  (242, [⟨46, 46, [], 234⟩, ⟨48, 57, [], 243⟩]),
  (243, [⟨46, 46, [], 234⟩, ⟨48, 57, [], 233⟩]),
  (244, [⟨46, 46, [], 234⟩, ⟨48, 48, [], 245⟩, ⟨53, 53, [], 246⟩]),
  (245, [⟨48, 57, [], 233⟩]),
  (246, [⟨48, 48, [], 233⟩]),
  (247, [⟨46, 46, [], 232⟩, ⟨48, 57, [], 248⟩]),
  (248, [⟨46, 46, [], 232⟩, ⟨48, 57, [], 231⟩]),
  (249, [⟨46, 46, [], 232⟩, ⟨48, 48, [], 250⟩, ⟨53, 53, [], 251⟩]),
  (250, [⟨48, 57, [], 231⟩]),
  (251, [⟨48, 48, [], 231⟩]),
  (252, [⟨48, 57, [], 253⟩, ⟨58, 58, [], 255⟩, ⟨65, 70, [], 253⟩, ⟨97, 102, [], 253⟩]),
  (253, [⟨48, 57, [], 254⟩, ⟨58, 58, [], 255⟩, ⟨65, 70, [], 254⟩, ⟨97, 102, [], 254⟩]),
  (254, [⟨58, 58, [], 255⟩]),
  (255, [⟨48, 57, [], 256⟩, ⟨65, 70, [], 256⟩, ⟨97, 102, [], 256⟩]),
  (256, [⟨48, 57, [], 257⟩, ⟨65, 70, [], 257⟩, ⟨93, 93, [], 236⟩, ⟨97, 102, [], 257⟩]),
  (257, [⟨48, 57, [], 258⟩, ⟨65, 70, [], 258⟩, ⟨93, 93, [], 236⟩, ⟨97, 102, [], 258⟩]),
  (258, [⟨48, 57, [], 235⟩, ⟨65, 70, [], 235⟩, ⟨93, 93, [], 236⟩, ⟨97, 102, [], 235⟩]),
  (259, [⟨46, 46, [], 230⟩, ⟨48, 57, [], 260⟩, ⟨58, 58, [], 255⟩, ⟨65, 70, [], 252⟩, ⟨97, 102, [], 252⟩]),
  (260, [⟨46, 46, [], 230⟩, ⟨48, 57, [], 261⟩, ⟨58, 58, [], 255⟩, ⟨65, 70, [], 253⟩, ⟨97, 102, [], 253⟩]),
  (261, [⟨46, 46, [], 230⟩, ⟨48, 57, [], 254⟩, ⟨58, 58, [], 255⟩, ⟨65, 70, [], 254⟩, ⟨97, 102, [], 254⟩]),
  (262, [⟨46, 46, [], 230⟩, ⟨48, 48, [], 263⟩, ⟨49, 52, [], 252⟩, ⟨53, 53, [], 264⟩, ⟨54, 57, [], 252⟩,
    ⟨58, 58, [], 255⟩, ⟨65, 70, [], 252⟩, ⟨97, 102, [], 252⟩]),
  (263, [⟨48, 57, [], 261⟩, ⟨58, 58, [], 255⟩, ⟨65, 70, [], 253⟩, ⟨97, 102, [], 253⟩]),
  (264, [⟨48, 48, [], 261⟩, ⟨49, 57, [], 253⟩, ⟨58, 58, [], 255⟩, ⟨65, 70, [], 253⟩, ⟨97, 102, [], 253⟩]),
  (265, [⟨48, 57, [], 252⟩, ⟨58, 58, [], 255⟩, ⟨65, 70, [], 252⟩, ⟨97, 102, [], 252⟩]),
  (266, [⟨48, 57, [], 267⟩, ⟨58, 58, [], 270⟩, ⟨65, 70, [], 267⟩, ⟨97, 102, [], 267⟩]),
  (267, [⟨48, 57, [], 268⟩, ⟨58, 58, [], 270⟩, ⟨65, 70, [], 268⟩, ⟨97, 102, [], 268⟩]),
  (268, [⟨48, 57, [], 269⟩, ⟨58, 58, [], 270⟩, ⟨65, 70, [], 269⟩, ⟨97, 102, [], 269⟩]),
  (269, [⟨58, 58, [], 270⟩]),
  (270, [⟨48, 57, [], 271⟩, ⟨58, 58, [], 341⟩, ⟨65, 70, [], 271⟩, ⟨97, 102, [], 271⟩]),
  (271, [⟨48, 57, [], 272⟩, ⟨58, 58, [], 275⟩, ⟨65, 70, [], 272⟩, ⟨97, 102, [], 272⟩]),
  (272, [⟨48, 57, [], 273⟩, ⟨58, 58, [], 275⟩, ⟨65, 70, [], 273⟩, ⟨97, 102, [], 273⟩]),
  (273, [⟨48, 57, [], 274⟩, ⟨58, 58, [], 275⟩, ⟨65, 70, [], 274⟩, ⟨97, 102, [], 274⟩]),
  (274, [⟨58, 58, [], 275⟩]),
  (275, [⟨48, 57, [], 276⟩, ⟨58, 58, [], 340⟩, ⟨65, 70, [], 276⟩, ⟨97, 102, [], 276⟩]),
  (276, [⟨48, 57, [], 277⟩, ⟨58, 58, [], 280⟩, ⟨65, 70, [], 277⟩, ⟨97, 102, [], 277⟩]),
  (277, [⟨48, 57, [], 278⟩, ⟨58, 58, [], 280⟩, ⟨65, 70, [], 278⟩, ⟨97, 102, [], 278⟩]),
  (278, [⟨48, 57, [], 279⟩, ⟨58, 58, [], 280⟩, ⟨65, 70, [], 279⟩, ⟨97, 102, [], 279⟩]),
  (279, [⟨58, 58, [], 280⟩]),
  (280, [⟨48, 57, [], 281⟩, ⟨58, 58, [], 339⟩, ⟨65, 70, [], 281⟩, ⟨97, 102, [], 281⟩]),
  (281, [⟨48, 57, [], 282⟩, ⟨58, 58, [], 285⟩, ⟨65, 70, [], 282⟩, ⟨97, 102, [], 282⟩]),
  (282, [⟨48, 57, [], 283⟩, ⟨58, 58, [], 285⟩, ⟨65, 70, [], 283⟩, ⟨97, 102, [], 283⟩]),
  (283, [⟨48, 57, [], 284⟩, ⟨58, 58, [], 285⟩, ⟨65, 70, [], 284⟩, ⟨97, 102, [], 284⟩]),
  (284, [⟨58, 58, [], 285⟩]),
  (285, [⟨48, 57, [], 286⟩, ⟨58, 58, [], 338⟩, ⟨65, 70, [], 286⟩, ⟨97, 102, [], 286⟩]),
  (286, [⟨48, 57, [], 287⟩, ⟨58, 58, [], 290⟩, ⟨65, 70, [], 287⟩, ⟨97, 102, [], 287⟩]),
  (287, [⟨48, 57, [], 288⟩, ⟨58, 58, [], 290⟩, ⟨65, 70, [], 288⟩, ⟨97, 102, [], 288⟩]),
  (288, [⟨48, 57, [], 289⟩, ⟨58, 58, [], 290⟩, ⟨65, 70, [], 289⟩, ⟨97, 102, [], 289⟩]),
  (289, [⟨58, 58, [], 290⟩]),
  (290, [⟨48, 57, [], 291⟩, ⟨58, 58, [], 326⟩, ⟨65, 70, [], 291⟩, ⟨97, 102, [], 291⟩]),
  (291, [⟨48, 57, [], 292⟩, ⟨58, 58, [], 295⟩, ⟨65, 70, [], 292⟩, ⟨97, 102, [], 292⟩]),
  (292, [⟨48, 57, [], 293⟩, ⟨58, 58, [], 295⟩, ⟨65, 70, [], 293⟩, ⟨97, 102, [], 293⟩]),
  (293, [⟨48, 57, [], 294⟩, ⟨58, 58, [], 295⟩, ⟨65, 70, [], 294⟩, ⟨97, 102, [], 294⟩]),
  (294, [⟨58, 58, [], 295⟩]),
  (295, [⟨48, 57, [], 296⟩, ⟨58, 58, [], 325⟩, ⟨65, 70, [], 296⟩, ⟨97, 102, [], 296⟩]),
  (296, [⟨48, 57, [], 297⟩, ⟨58, 58, [], 300⟩, ⟨65, 70, [], 297⟩, ⟨97, 102, [], 297⟩]),
  (297, [⟨48, 57, [], 298⟩, ⟨58, 58, [], 300⟩, ⟨65, 70, [], 298⟩, ⟨97, 102, [], 298⟩]),
  (298, [⟨48, 57, [], 299⟩, ⟨58, 58, [], 300⟩, ⟨65, 70, [], 299⟩, ⟨97, 102, [], 299⟩]),
  (299, [⟨58, 58, [], 300⟩]),
  (300, [⟨48, 57, [], 296⟩, ⟨58, 58, [], 301⟩, ⟨65, 70, [], 296⟩, ⟨97, 102, [], 296⟩]),
  (301, [⟨2, 3, [], 223⟩, ⟨48, 48, [], 302⟩, ⟨49, 49, [], 318⟩, ⟨50, 50, [], 321⟩, ⟨51, 57, [], 302⟩,
    ⟨65, 70, [], 324⟩, ⟨93, 93, [], 236⟩, ⟨97, 102, [], 324⟩]),
  (302, [⟨46, 46, [], 230⟩, ⟨48, 57, [], 303⟩, ⟨58, 58, [], 306⟩, ⟨65, 70, [], 303⟩, ⟨93, 93, [], 236⟩,
    ⟨97, 102, [], 303⟩]),
  (303, [⟨48, 57, [], 304⟩, ⟨58, 58, [], 306⟩, ⟨65, 70, [], 304⟩, ⟨93, 93, [], 236⟩, ⟨97, 102, [], 304⟩]),
  (304, [⟨48, 57, [], 305⟩, ⟨58, 58, [], 306⟩, ⟨65, 70, [], 305⟩, ⟨93, 93, [], 236⟩, ⟨97, 102, [], 305⟩]),
  (305, [⟨58, 58, [], 306⟩, ⟨93, 93, [], 236⟩]),
  (306, [⟨48, 48, [], 307⟩, ⟨49, 49, [], 311⟩, ⟨50, 50, [], 314⟩, ⟨51, 57, [], 307⟩, ⟨65, 70, [], 317⟩,
    ⟨97, 102, [], 317⟩]),
  (307, [⟨46, 46, [], 230⟩, ⟨48, 57, [], 308⟩, ⟨58, 58, [], 255⟩, ⟨65, 70, [], 308⟩, ⟨93, 93, [], 236⟩,
    ⟨97, 102, [], 308⟩]),
  (308, [⟨48, 57, [], 309⟩, ⟨58, 58, [], 255⟩, ⟨65, 70, [], 309⟩, ⟨93, 93, [], 236⟩, ⟨97, 102, [], 309⟩]),
  (309, [⟨48, 57, [], 310⟩, ⟨58, 58, [], 255⟩, ⟨65, 70, [], 310⟩, ⟨93, 93, [], 236⟩, ⟨97, 102, [], 310⟩]),
  (310, [⟨58, 58, [], 255⟩, ⟨93, 93, [], 236⟩]),
  (311, [⟨46, 46, [], 230⟩, ⟨48, 57, [], 312⟩, ⟨58, 58, [], 255⟩, ⟨65, 70, [], 308⟩, ⟨93, 93, [], 236⟩,
    ⟨97, 102, [], 308⟩]),
  (312, [⟨46, 46, [], 230⟩, ⟨48, 57, [], 313⟩, ⟨58, 58, [], 255⟩, ⟨65, 70, [], 309⟩, ⟨93, 93, [], 236⟩,
    ⟨97, 102, [], 309⟩]),
  (313, [⟨46, 46, [], 230⟩, ⟨48, 57, [], 310⟩, ⟨58, 58, [], 255⟩, ⟨65, 70, [], 310⟩, ⟨93, 93, [], 236⟩,
    ⟨97, 102, [], 310⟩]),
  (314, [⟨46, 46, [], 230⟩, ⟨48, 48, [], 315⟩, ⟨49, 52, [], 308⟩, ⟨53, 53, [], 316⟩, ⟨54, 57, [], 308⟩,
    ⟨58, 58, [], 255⟩, ⟨65, 70, [], 308⟩, ⟨93, 93, [], 236⟩, ⟨97, 102, [], 308⟩]),
  (315, [⟨48, 57, [], 313⟩, ⟨58, 58, [], 255⟩, ⟨65, 70, [], 309⟩, ⟨93, 93, [], 236⟩, ⟨97, 102, [], 309⟩]),
  (316, [⟨48, 48, [], 313⟩, ⟨49, 57, [], 309⟩, ⟨58, 58, [], 255⟩, ⟨65, 70, [], 309⟩, ⟨93, 93, [], 236⟩,
    ⟨97, 102, [], 309⟩]),
  (317, [⟨48, 57, [], 308⟩, ⟨58, 58, [], 255⟩, ⟨65, 70, [], 308⟩, ⟨93, 93, [], 236⟩, ⟨97, 102, [], 308⟩]),
  (318, [⟨46, 46, [], 230⟩, ⟨48, 57, [], 319⟩, ⟨58, 58, [], 306⟩, ⟨65, 70, [], 303⟩, ⟨93, 93, [], 236⟩,
    ⟨97, 102, [], 303⟩]),
  (319, [⟨46, 46, [], 230⟩, ⟨48, 57, [], 320⟩, ⟨58, 58, [], 306⟩, ⟨65, 70, [], 304⟩, ⟨93, 93, [], 236⟩,
    ⟨97, 102, [], 304⟩]),
  (320, [⟨46, 46, [], 230⟩, ⟨48, 57, [], 305⟩, ⟨58, 58, [], 306⟩, ⟨65, 70, [], 305⟩, ⟨93, 93, [], 236⟩,
    ⟨97, 102, [], 305⟩]),
  (321, [⟨46, 46, [], 230⟩, ⟨48, 48, [], 322⟩, ⟨49, 52, [], 303⟩, ⟨53, 53, [], 323⟩, ⟨54, 57, [], 303⟩,
    ⟨58, 58, [], 306⟩, ⟨65, 70, [], 303⟩, ⟨93, 93, [], 236⟩, ⟨97, 102, [], 303⟩]),
  (322, [⟨48, 57, [], 320⟩, ⟨58, 58, [], 306⟩, ⟨65, 70, [], 304⟩, ⟨93, 93, [], 236⟩, ⟨97, 102, [], 304⟩]),
  (323, [⟨48, 48, [], 320⟩, ⟨49, 57, [], 304⟩, ⟨58, 58, [], 306⟩, ⟨65, 70, [], 304⟩, ⟨93, 93, [], 236⟩,
    ⟨97, 102, [], 304⟩]),
  (324, [⟨48, 57, [], 303⟩, ⟨58, 58, [], 306⟩, ⟨65, 70, [], 303⟩, ⟨93, 93, [], 236⟩, ⟨97, 102, [], 303⟩]),
  (325, [⟨2, 3, [], 223⟩, ⟨48, 48, [], 302⟩, ⟨49, 49, [], 318⟩, ⟨50, 50, [], 321⟩, ⟨51, 57, [], 302⟩,
    ⟨65, 70, [], 324⟩, ⟨97, 102, [], 324⟩]),
  (326, [⟨2, 3, [], 223⟩, ⟨48, 48, [], 327⟩, ⟨49, 49, [], 331⟩, ⟨50, 50, [], 334⟩, ⟨51, 57, [], 327⟩,
    ⟨65, 70, [], 337⟩, ⟨97, 102, [], 337⟩]),
  (327, [⟨46, 46, [], 230⟩, ⟨48, 57, [], 328⟩, ⟨58, 58, [], 306⟩, ⟨65, 70, [], 328⟩, ⟨97, 102, [], 328⟩]),
  (328, [⟨48, 57, [], 329⟩, ⟨58, 58, [], 306⟩, ⟨65, 70, [], 329⟩, ⟨97, 102, [], 329⟩]),
  (329, [⟨48, 57, [], 330⟩, ⟨58, 58, [], 306⟩, ⟨65, 70, [], 330⟩, ⟨97, 102, [], 330⟩]),
  (330, [⟨58, 58, [], 306⟩]),
  (331, [⟨46, 46, [], 230⟩, ⟨48, 57, [], 332⟩, ⟨58, 58, [], 306⟩, ⟨65, 70, [], 328⟩, ⟨97, 102, [], 328⟩]),
  (332, [⟨46, 46, [], 230⟩, ⟨48, 57, [], 333⟩, ⟨58, 58, [], 306⟩, ⟨65, 70, [], 329⟩, ⟨97, 102, [], 329⟩]),
  (333, [⟨46, 46, [], 230⟩, ⟨48, 57, [], 330⟩, ⟨58, 58, [], 306⟩, ⟨65, 70, [], 330⟩, ⟨97, 102, [], 330⟩]),
  (334, [⟨46, 46, [], 230⟩, ⟨48, 48, [], 335⟩, ⟨49, 52, [], 328⟩, ⟨53, 53, [], 336⟩, ⟨54, 57, [], 328⟩,
    ⟨58, 58, [], 306⟩, ⟨65, 70, [], 328⟩, ⟨97, 102, [], 328⟩]),
  (335, [⟨48, 57, [], 333⟩, ⟨58, 58, [], 306⟩, ⟨65, 70, [], 329⟩, ⟨97, 102, [], 329⟩]),
  (336, [⟨48, 48, [], 333⟩, ⟨49, 57, [], 329⟩, ⟨58, 58, [], 306⟩, ⟨65, 70, [], 329⟩, ⟨97, 102, [], 329⟩]),
  (337, [⟨48, 57, [], 328⟩, ⟨58, 58, [], 306⟩, ⟨65, 70, [], 328⟩, ⟨97, 102, [], 328⟩]),
  (338, [⟨2, 3, [], 223⟩, ⟨48, 57, [], 224⟩, ⟨65, 70, [], 224⟩, ⟨97, 102, [], 224⟩]),
  (339, [⟨2, 3, [], 223⟩]),
  (340, [⟨3, 3, [], 223⟩]),
  (341, [⟨4, 4, [], 223⟩]),
  (342, [⟨58, 58, [], 343⟩]),
  (343, [⟨2, 5, [], 223⟩, ⟨48, 48, [], 302⟩, ⟨49, 49, [], 318⟩, ⟨50, 50, [], 321⟩, ⟨51, 57, [], 302⟩,
    ⟨65, 70, [], 324⟩, ⟨93, 93, [], 236⟩, ⟨97, 102, [], 324⟩]),
  (344, [⟨48, 57, [], 345⟩, ⟨65, 70, [], 345⟩, ⟨97, 102, [], 345⟩]),
  (345, [⟨46, 46, [], 346⟩, ⟨48, 57, [], 345⟩, ⟨65, 70, [], 345⟩, ⟨97, 102, [], 345⟩]),
  (346, [⟨33, 33, [], 347⟩, ⟨36, 36, [], 347⟩, ⟨38, 46, [], 347⟩, ⟨48, 59, [], 347⟩, ⟨61, 61, [], 347⟩,
    ⟨65, 90, [], 347⟩, ⟨95, 95, [], 347⟩, ⟨97, 122, [], 347⟩, ⟨126, 126, [], 347⟩]),
  (347, [⟨33, 33, [], 347⟩, ⟨36, 36, [], 347⟩, ⟨38, 46, [], 347⟩, ⟨48, 59, [], 347⟩, ⟨61, 61, [], 347⟩,
    ⟨65, 90, [], 347⟩, ⟨93, 93, [], 236⟩, ⟨95, 95, [], 347⟩, ⟨97, 122, [], 347⟩, ⟨126, 126, [], 347⟩]),
  (348, [⟨1, 8, [], 14⟩, ⟨10, 31, [], 14⟩, ⟨33, 33, [], 14⟩, ⟨35, 39, [], 14⟩, ⟨42, 43, [], 14⟩,
    ⟨45, 46, [], 14⟩, ⟨48, 57, [], 14⟩, ⟨58, 58, [.write_field], 15⟩, ⟨65, 90, [], 14⟩, ⟨94, 122, [], 14⟩,
    ⟨124, 124, [], 14⟩, ⟨126, 126, [], 14⟩]),
  (349, [])]

/-- The edges of `more_delims`, the bytes that are delimiters only when `uri_relaxed` is set. -/
def http_parser_more_delims : Table HttpParser.Action := [
  (3, [⟨94, 94, [.mark], 19⟩, ⟨123, 123, [.mark], 19⟩, ⟨125, 125, [.mark], 19⟩]),
  (19, [⟨94, 94, [], 19⟩, ⟨123, 123, [], 19⟩, ⟨125, 125, [], 19⟩]),
  (20, [⟨94, 94, [.mark], 21⟩, ⟨123, 123, [.mark], 21⟩, ⟨125, 125, [.mark], 21⟩]),
  (21, [⟨94, 94, [], 21⟩, ⟨123, 123, [], 21⟩, ⟨125, 125, [], 21⟩]),
  (26, [⟨94, 94, [], 26⟩, ⟨123, 123, [], 26⟩, ⟨125, 125, [], 26⟩]),
  (29, [⟨94, 94, [.start_query], 30⟩, ⟨123, 123, [.start_query], 30⟩, ⟨125, 125, [.start_query], 30⟩]),
  (30, [⟨94, 94, [], 30⟩, ⟨123, 123, [], 30⟩, ⟨125, 125, [], 30⟩]),
  (33, [⟨94, 94, [], 26⟩, ⟨123, 123, [], 26⟩, ⟨125, 125, [], 26⟩]),
  (34, [⟨94, 94, [], 35⟩, ⟨123, 123, [], 35⟩, ⟨125, 125, [], 35⟩]),
  (35, [⟨94, 94, [], 35⟩, ⟨123, 123, [], 35⟩, ⟨125, 125, [], 35⟩]),
  (38, [⟨94, 94, [], 39⟩, ⟨123, 123, [], 39⟩, ⟨125, 125, [], 39⟩]),
  (39, [⟨94, 94, [], 39⟩, ⟨123, 123, [], 39⟩, ⟨125, 125, [], 39⟩]),
  (42, [⟨94, 94, [], 43⟩, ⟨123, 123, [], 43⟩, ⟨125, 125, [], 43⟩]),
  (43, [⟨94, 94, [], 43⟩, ⟨123, 123, [], 43⟩, ⟨125, 125, [], 43⟩]),
  (171, [⟨94, 94, [], 172⟩, ⟨123, 123, [], 172⟩, ⟨125, 125, [], 172⟩]),
  (172, [⟨94, 94, [], 172⟩, ⟨123, 123, [], 172⟩, ⟨125, 125, [], 172⟩]),
  (173, [⟨94, 94, [], 19⟩, ⟨123, 123, [], 19⟩, ⟨125, 125, [], 19⟩]),
  (174, [⟨94, 94, [.mark], 26⟩, ⟨123, 123, [.mark], 26⟩, ⟨125, 125, [.mark], 26⟩]),
  (198, [⟨94, 94, [], 202⟩, ⟨123, 123, [], 202⟩, ⟨125, 125, [], 202⟩]),
  (202, [⟨94, 94, [], 202⟩, ⟨123, 123, [], 202⟩, ⟨125, 125, [], 202⟩]),
  (205, [⟨94, 94, [], 205⟩, ⟨123, 123, [], 205⟩, ⟨125, 125, [], 205⟩]),
  (208, [⟨94, 94, [], 205⟩, ⟨123, 123, [], 205⟩, ⟨125, 125, [], 205⟩]),
  (209, [⟨94, 94, [], 210⟩, ⟨123, 123, [], 210⟩, ⟨125, 125, [], 210⟩]),
  (210, [⟨94, 94, [], 210⟩, ⟨123, 123, [], 210⟩, ⟨125, 125, [], 210⟩]),
  (213, [⟨94, 94, [], 214⟩, ⟨123, 123, [], 214⟩, ⟨125, 125, [], 214⟩]),
  (214, [⟨94, 94, [], 214⟩, ⟨123, 123, [], 214⟩, ⟨125, 125, [], 214⟩]),
  (217, [⟨94, 94, [], 218⟩, ⟨123, 123, [], 218⟩, ⟨125, 125, [], 218⟩]),
  (218, [⟨94, 94, [], 218⟩, ⟨123, 123, [], 218⟩, ⟨125, 125, [], 218⟩]),
  (346, [⟨94, 94, [], 347⟩, ⟨123, 123, [], 347⟩, ⟨125, 125, [], 347⟩]),
  (347, [⟨94, 94, [], 347⟩, ⟨123, 123, [], 347⟩, ⟨125, 125, [], 347⟩])]

end Mingfwq.Http
