import LaserTx.Clocked.CyclicWindow
import LaserTx.Clocked.PhaseStream
import LaserTx.Clocked.Trace
import LaserTx.Rtl.PatternTxEngine
import LaserTx.Transmission.BitSerial
import LaserTx.Transmission.PatternWindow
import LaserTx.Transmission.Streaming
import LaserTx.Transmission.Word
import LaserTx.Transmission.Edge
import LaserTx.Transmission.Run
import LaserTx.Transmission.NonLoop
import LaserTx.Transmission.Loop
import LaserTx.Transmission.LoopRepeat
import LaserTx.Rtl.CdcToggleSync
import LaserTx.Rtl.ConfigLoader
import LaserTx.Rtl.LaserTxCore
import LaserTx.Configuration.Published
import LaserTx.Configuration.StartProtocol
import LaserTx.Clocked.ToggleCrossing
import LaserTx.Configuration.Crossing
import LaserTx.Firmware.Board
import LaserTx.Firmware.LaserBram
import LaserTx.Firmware.LaserGpio
import LaserTx.Firmware.WriteConfig
import LaserTx.Configuration.Record
import LaserTx.Rate.Switch
import LaserTx.Rate.Requests
import LaserTx.Rate.Registers
import LaserTx.Firmware.CommandText
import LaserTx.Firmware.LaserGt
import LaserTx.Firmware.RateCommand
import LaserTx.Rate.Recovery
import LaserTx.Rate.Interlock
import LaserTx.Rate.Termination
import LaserTx.Clocked.Port
import LaserTx.Rate.DrpSequence
import LaserTx.Clocked.Ticks
import LaserTx.Rate.FreshMeasurement
import LaserTx.Rate.GrayCounting
import LaserTx.Transmission.Idle
import LaserTx.Configuration.EngineConfig
import LaserTx.Rate.ReadyGate
import LaserTx.Rtl.LaserTxBoardTop
import LaserTx.Rate.ReadyHistory
import LaserTx.Rate.RunningTransmission
import LaserTx.Firmware.UdpCommand
import LaserTx.Firmware.CommandEffects
import LaserTx.Firmware.RateAnswer
import LaserTx.Interaction.Interference
import LaserTx.Rate.Handshake
import LaserTx.Rate.SetAnswer
import LaserTx.Transmission.Aborts
import LaserTx.Transmission.CursorRotation
import LaserTx.Configuration.ToggleEvents
import LaserTx.Firmware.ControlFields
import LaserTx.Rate.StatusFlags
import LaserTx.Configuration.ApplyConservation
import LaserTx.Clocked.ShiftRegister
import LaserTx.Transmission.PrbsContinuity
import LaserTx.Firmware.RequestTokens
import LaserTx.Firmware.CommandForms
import LaserTx.Firmware.NumberArgument
import LaserTx.Firmware.Datagram
import LaserTx.Firmware.TokensInPlace
import LaserTx.Rate.GrayCounting
import LaserTx.Clocked.Dwell
import LaserTx.Rtl.TxStartupFsm
import LaserTx.Rtl.GtWizard
import LaserTx.Startup.Stage
import LaserTx.Startup.Run
import LaserTx.Startup.Pins
import LaserTx.Startup.Automaton
import LaserTx.Startup.Completion
import LaserTx.Startup.Milestones
import LaserTx.Startup.Wizard
import LaserTx.Startup.BringUp
import LaserTx.Startup.Interlock
import LaserTx.Startup.SwitchOrder
import LaserTx.Clocked.Domain
import LaserTx.Delivery.Chip
import LaserTx.Delivery.Load
import LaserTx.Delivery.Arrival
import LaserTx.Delivery.Start
import LaserTx.Delivery.Waveform
import LaserTx.Delivery.Light
import LaserTx.Interaction.Session
import LaserTx.Interaction.Simulation
import LaserTx.Interaction.Transcript
import LaserTx.Firmware.ControlPlane
import LaserTx.Firmware.UdpServer
import LaserTx.Firmware.ServerProgress
import LaserTx.Delivery.Client
import LaserTx.Clocked.Latest
import LaserTx.Delivery.Readout
import LaserTx.Delivery.Attribution
import LaserTx.Firmware.ServerWarrant
import LaserTx.Firmware.UartTest
import LaserTx.Delivery.Warrant
import LaserTx.Delivery.Dark
import LaserTx.Delivery.Bench
import LaserTx.Delivery.SelfTest
import LaserTx.Delivery.AppliedPlane
