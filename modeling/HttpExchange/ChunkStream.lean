import HttpExchange.Bytes.Utf8
import HttpExchange.Error
/-!
Streamed response bodies. The transport registers sinks, and every chunk that is written goes
to each of them. A sink is known by the chunks that it has received.
-/

namespace HttpExchange

inductive Chunk
  | text (value : String)
  | octets (value : Bytes)
deriving DecidableEq, Repr

namespace Chunk

def bytes : Chunk → Bytes
  | .text value => Utf8.encode value.toList
  | .octets value => value

def isEmpty (chunk : Chunk) : Bool :=
  chunk.bytes.isEmpty

end Chunk

structure ChunkStream where
  /-- Whether a chunk was written, with or without a sink to take it. -/
  started : Bool := false
  /-- What each sink has received, in the order in which the sinks were registered. -/
  sinks : List (List Chunk) := []
deriving DecidableEq, Repr

namespace ChunkStream

def hasSinks (stream : ChunkStream) : Bool :=
  !stream.sinks.isEmpty

/-- Registers a sink, which receives the chunks that are written from now on. -/
def register (stream : ChunkStream) : ChunkStream :=
  { stream with sinks := stream.sinks ++ [[]] }

/-- The failure to stream a body when nothing takes its chunks. -/
def noSink : Error :=
  .unsupportedOperation "transport does not support chunked responses"

/-- Hands a chunk to every sink. Without a sink the stream has started all the same. -/
def write (stream : ChunkStream) (chunk : Chunk) : ChunkStream × Except Error Unit :=
  if stream.hasSinks then
    ({ started := true, sinks := stream.sinks.map (· ++ [chunk]) }, .ok ())
  else ({ stream with started := true }, .error noSink)

end ChunkStream

end HttpExchange
