import ChatRooms.Actor.Loop
import ChatRooms.Hub.Exchange

/-! The hub as a task: it applies one request after the other, keeps a record of those it refused,
and forgets everything when it stops. Every request brings a copy of its sender's address. -/
namespace ChatRooms

structure Service where
  exchange : Exchange
  refused : List Refusal

namespace Service

def create (config : Config) : Service :=
  ⟨Exchange.create config, []⟩

def share (service : Service) (id : ClientId) : Service :=
  { service with exchange :=
    { service.exchange with mail := service.exchange.mail.share id } }

def release (service : Service) (id : ClientId) : Service :=
  { service with exchange :=
    { service.exchange with mail := service.exchange.mail.release id } }

def carryOut (visit : Visit) (now : Timestamp) (service : Service) (request : Request) :
    Service :=
  match service.exchange.apply visit now request with
  | (exchange, .ok ()) => { service with exchange }
  | (exchange, .error refusal) => ⟨exchange, service.refused ++ [refusal]⟩

def handle (visit : Visit) (now : Timestamp) (service : Service) (request : Request) : Service :=
  (carryOut visit now service request).release request.sender

def actor (visit : Visit) (now : Timestamp) : Actor Service Request where
  start service := service
  handle := handle visit now
  stop service := { service with exchange := service.exchange.reset }
  discard service request := service.release request.sender

end Service
end ChatRooms
