import DuckTyping.Value

/-!
# Equality of values

Numbers are compared as numbers, symbols and functions by identity, arrays element by element and
objects key by key.  Values of different variants are never equal.

Main definitions:

- `Value.equals`: whether two values are equal.
-/

namespace DuckTyping
namespace Value

mutual

/-- Whether two values are equal. -/
def equals : Value → Value → Bool
  | undefined, undefined => true
  | null, null => true
  | bool a, bool b => a == b
  | number a, number b => a.equals b
  | bigint a, bigint b => a == b
  | string a, string b => a == b
  | symbol a, symbol b => a.id == b.id
  | function a, function b => a.id == b.id
  | array as, array bs => elementsEqual as bs
  | object as, object bs => propertiesEqual as bs
  | _, _ => false

/-- Whether two lists of elements are equal one by one. -/
def elementsEqual : List Value → List Value → Bool
  | [], [] => true
  | a :: as, b :: bs => a.equals b && elementsEqual as bs
  | _, _ => false

/-- Whether two lists of properties have the same keys, bound to equal values. -/
def propertiesEqual : List (PropertyKey × Value) → List (PropertyKey × Value) → Bool
  | [], [] => true
  | (k, a) :: as, (l, b) :: bs => k == l && a.equals b && propertiesEqual as bs
  | _, _ => false

end

end Value
end DuckTyping
