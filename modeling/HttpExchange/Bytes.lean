/-!
Octet strings, as bodies and encoded credentials hold them.
-/

namespace HttpExchange

abbrev Bytes := List UInt8

end HttpExchange
