import OpenApiGen.Jq.Parse
import OpenApiGen.Jq.Compile
/-!
The standard definitions written in jq itself, on top of the built-in filters.
-/

namespace OpenApiGen.Jq

/-- The text of the standard definitions. Braces stand as escapes in this text. -/
def librarySource : String :=
  "def not: if . then false else true end;
def select(f): if f then . else empty end;
def values: select(. != null);
def nulls: select(. == null);
def booleans: select(type == \"boolean\");
def numbers: select(type == \"number\");
def strings: select(type == \"string\");
def arrays: select(type == \"array\");
def objects: select(type == \"object\");
def iterables: select(type | . == \"array\" or . == \"object\");
def scalars: select(type | . != \"array\" and . != \"object\");
def isboolean: type == \"boolean\";
def isnumber: type == \"number\";
def isstring: type == \"string\";
def isarray: type == \"array\";
def isobject: type == \"object\";
def isiterable: type | . == \"array\" or . == \"object\";
def nan: 0 / 0;
def infinite: 1 / 0;
def isinfinite: . == infinite or . == -infinite;
def isnan: . < nan;
def isnormal: isnumber and ((. == 0 or isnan or isinfinite) | not);
def finites: select(isinfinite or isnan | not);
def normals: select(isnormal);
def isvalid(f): try (f | true) catch false;
def abs: if . < 0 then - . else . end;
def add: reduce .[] as $x (null; . + $x);
def add(f): reduce f as $x (null; . + $x);
def map(f): [.[] | f];
def map_values(f): .[] |= f;
def recurse(f): def r: ., (f | r); r;
def recurse(f; cond): def r: ., (f | select(cond) | r); r;
def recurse: recurse(.[]?);
def repeat(f): def r: ., (f | r); r;
def while(cond; update): def r: if cond then ., (update | r) else empty end; r;
def until(cond; update): def r: if cond then . else update | r end; r;
def range($upto): range(0; $upto; 1);
def range($from; $upto): range($from; $upto; 1);
def in(xs): . as $x | xs | has($x);
def inside(xs): . as $x | xs | contains($x);
def first: .[0];
def last: .[-1];
def nth($n): .[$n];
def first(f): label $out | f | ., break $out;
def limit($n; f): if $n > 0 then label $out | foreach f as $x (0; . + 1; $x, if . >= $n then break $out else empty end) else empty end;
def skip($n; f): if $n > 0 then foreach f as $x ($n; . - 1; if . < 0 then $x else empty end) else f end;
def nth($n; f): last(limit($n + 1; f));
def isempty(g): label $out | (g | false, break $out), true;
def any(g; cond): isempty(first(g | cond | select(.))) | not;
def all(g; cond): isempty(first(g | cond | select(. | not)));
def any(f): any(.[]; f);
def all(f): all(.[]; f);
def any: any(.);
def all: all(.);
def flatten($depth): if $depth < 0 then error(\"flatten depth must not be negative\") else reduce .[] as $x ([]; if ($x | type) == \"array\" and $depth > 0 then . + ($x | flatten($depth - 1)) else . + [$x] end) end;
def flatten: flatten(1000000000);
def to_entries: [keys_unsorted[] as $k | \x7bkey: $k, value: .[$k]\x7d];
def from_entries: reduce .[] as $x (\x7b\x7d; . + \x7b($x | .key): ($x | .value)\x7d);
def with_entries(f): to_entries | map(f) | from_entries;
def del(f): f |= empty;
def walk(f): def r: (.[]? |= r) | f; r;
def transpose: [range(0; map(length) | max) as $i | [.[][$i]]];
def min: min_by(.);
def max: max_by(.);
def unique: unique_by(.);
def keys: keys_unsorted | sort;
def index($i): indices($i) | .[0];
def rindex($i): indices($i) | .[-1:][0];
def debug(msg): (msg | debug | empty), .;
def todate: todateiso8601;
def fromdate: fromdateiso8601;
def test($re): test($re; null);
def match($re): match($re; null);
def capture($re): capture($re; null);
def scan($re): scan($re; null);
def splits($re; $flags): split($re; $flags) | .[];
def splits($re): splits($re; null);
def sub($re; str): sub($re; str; \"\");
def gsub($re; str; $flags): sub($re; str; $flags + \"g\");
def gsub($re; str): sub($re; str; \"g\");
."

def libraryDefs : List Def :=
  match lex librarySource with
  | .ok ts =>
    match parseModule ts with
    | .ok { body := .defs ds _, .. } => ds
    | _ => []
  | .error _ => []

/-- The standard definitions compiled: the scope they make and the compiler's state. -/
def standardLibrary : List ScopeEntry × Compiler := compileLibrary libraryDefs

end OpenApiGen.Jq
