import IsdnRas.Library.CountedQueue
import IsdnRas.Library.SeqSpace
import IsdnRas.Library.GoBackN
import IsdnRas.Library.Runs
import IsdnRas.Library.Transducer
import IsdnRas.Library.Stuffing
import IsdnRas.Library.Crc
import IsdnRas.Library.WordMatcher
import IsdnRas.Library.Staircase
import IsdnRas.Library.LossyLine
import IsdnRas.X75.Basic
import IsdnRas.X75.Subr
import IsdnRas.X75.Out
import IsdnRas.X75.In
import IsdnRas.X75.Iface
import IsdnRas.X75.Events
import IsdnRas.X75.Procedures
import IsdnRas.X75.Wire
import IsdnRas.X75.RoundTrip
import IsdnRas.X75.Decoding
import IsdnRas.X75.Outcomes
import IsdnRas.X75.Acts
import IsdnRas.X75.Steps
import IsdnRas.X75.Traffic
import IsdnRas.X75.QueueCounts
import IsdnRas.X75.Acknowledging
import IsdnRas.X75.Ledger
import IsdnRas.X75.Station
import IsdnRas.X75.Turns
import IsdnRas.X75.Link
import IsdnRas.X75.InOrder
import IsdnRas.X75.AckWindow
import IsdnRas.X75.Sessions
import IsdnRas.X75.DataPhase
import IsdnRas.X75.Owner
import IsdnRas.X75.AckTimer
import IsdnRas.X75.T1Supervision
import IsdnRas.X75.Awaiting
import IsdnRas.X75.FinalBit
import IsdnRas.X75.FlowControl
import IsdnRas.X75.Retries
import IsdnRas.X75.Parameters
import IsdnRas.X75.RetryBound
import IsdnRas.X75.Receiver
import IsdnRas.X75.Speaking
import IsdnRas.Ppp.Rfc1662
import IsdnRas.Ppp.Pppd
import IsdnRas.Ppp.TxBuffer
import IsdnRas.Ppp.FrameFormat
import IsdnRas.Ppp.Deframer
import IsdnRas.Ppp.OpenFrame
import IsdnRas.Ppp.FrameRoundTrip
import IsdnRas.Ppp.Resync
import IsdnRas.Ppp.FrameCheck
import IsdnRas.Ppp.Fcs16
import IsdnRas.Yate.Message
import IsdnRas.Yate.Lines
import IsdnRas.Yate.Fields
import IsdnRas.Yate.CallParameters
import IsdnRas.Yate.CallExecute
import IsdnRas.Yate.Codec
import IsdnRas.Yate.SampleInput
import IsdnRas.Ppp.ReadCuts
import IsdnRas.Ppp.ReadEnd
import IsdnRas.V110.FaxSync
import IsdnRas.V110.RlpFrame
import IsdnRas.V110.RlpStream
import IsdnRas.V110.SoftUart
import IsdnRas.V110.UartStates
import IsdnRas.V110.Characters
import IsdnRas.V110.ReceiveBuffer
import IsdnRas.V110.FramingErrors
import IsdnRas.Fax.Decode
import IsdnRas.Fax.Pages
import IsdnRas.Fax.FaxTest
import IsdnRas.Hdlc.Transmit
import IsdnRas.Hdlc.Waiting
import IsdnRas.Ppp.Gateway
import IsdnRas.Ppp.TwoGateways
import IsdnRas.X75.Process
import IsdnRas.X75.System
import IsdnRas.X75.SetUp
import IsdnRas.X75.Reset
import IsdnRas.X75.Calls
import IsdnRas.X75.CallOrder
import IsdnRas.X75.SystemCalls
